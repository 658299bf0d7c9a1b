import PagedTables.Query.Spec

/-!
# Building queries

A query is a specification together with the type of the table's items, the type that projected
items are put into, and the table it will run on if that is known. Builder calls take a query and
give a new one or say what is wrong with their arguments.

Conditions are joined by `and` in the order of the calls. Sort keys replace the ordering or add to
it, a selection replaces the one before, skipped items add up, of several limits the smallest
counts, and parameters keep the place of their first setting.
-/
namespace PagedTables

/-- What a callable argument answers when it is given the root of all references. -/
inductive Produced (α : Type) where
  | operand (o : Operand)
  | list (elements : List α)
  | tuple (elements : List α)
  | dict (entries : List (Value × α))
  | failure (fault : BuildFault)

/-- An argument of a builder call: a value, an expression, or a callable. -/
inductive Argument where
  | operand (o : Operand)
  | callable (produced : Produced Argument)

/-- The name of the type of what a callable answers. -/
def Produced.typeName {α : Type} : Produced α → String
  | operand o => o.typeName
  | list _ => "list"
  | tuple _ => "tuple"
  | dict _ => "dict"
  | failure _ => ""

/-- What is wrong with the arguments of a builder call. -/
inductive InvalidCall where
  /-- Null where an expression belongs. -/
  | missing (what : String)
  /-- A callable did not answer with an expression. -/
  | notBuilt (what typeName : String)
  /-- A value that is neither an expression nor a callable. -/
  | notAnExpression (what typeName : String)
  /-- A text that is no reference. -/
  | notAReference (what : String) (fault : BuildFault)
  | emptySelection
  /-- A column has a name that a selection has another use for. -/
  | unusableColumnName
  | skipCount (display : String)
  | takeCount (display : String)
  /-- What would be shown or written has an integer of too many digits. -/
  | tooLong
  | noParameters
  | blankParameterName
  | blankParameterValue (name : String)
  | reservedParameter (name : String)
  /-- A parameter name that cannot be a key. -/
  | unusableParameterName
  /-- A callable failed to build its expression. -/
  | build (fault : BuildFault)
  deriving DecidableEq

/-- A builder call's result. -/
abbrev Built := Except InvalidCall

namespace Argument

/-- The expression that an argument stands for. -/
def toExpr (what : String) : Argument → Built Expr
  | operand (.node e) => .ok e
  | operand (.plain .null) => .error (.missing what)
  | operand (.plain (.bool b)) => .ok (.constant (.bool b))
  | operand (.plain v) => .error (.notAnExpression what v.typeName)
  | callable (.operand (.node e)) => .ok e
  | callable (.failure fault) => .error (.build fault)
  | callable produced => .error (.notBuilt what produced.typeName)

/-- The field that an argument stands for: a text is a reference. -/
def toField (what : String) (a : Argument) : Built Expr :=
  match a with
  | operand (.plain v) =>
    if v.asText?.isSome then
      match Expr.ofReference v with
      | .ok e => .ok e
      | .error fault => .error (.notAReference what fault)
    else a.toExpr what
  | a => a.toExpr what

end Argument

/-- The name that a selected field gets when none is given. -/
def Expr.outputName : Expr → Built String
  | field path => .ok path.last.text
  | e => if e.isShowable then .ok e.display else .error .tooLong

/-- A column that keeps the field's own name. -/
def selectOwn (a : Argument) : Built (String × Expr) :=
  (a.toField "selection").bind fun e => e.outputName.map (·, e)

/-- A column with the text of a value for its name. -/
def selectAs (key : Value) (a : Argument) : Built (String × Expr) :=
  if key.hasText then (a.toField "selection").map (key.toText, ·) else .error .tooLong

/-- The columns that one positional argument of a selection stands for. -/
def selectColumns : Argument → Built Selection
  | .callable (.failure fault) => .error (.build fault)
  | .callable (.dict entries) => entries.mapM fun (key, a) => selectAs key a
  | .callable (.list elements) => elements.mapM selectOwn
  | .callable (.tuple elements) => elements.mapM selectOwn
  | .callable (.operand o) => (selectOwn (.operand o)).map ([·])
  | a => (selectOwn a).map ([·])

/-- A query on a table. -/
structure TableQuery where
  /-- What the items of the table are declared to be. -/
  row : RowType
  spec : QuerySpec
  /-- What projected items are put into. -/
  into : RowType
  naming : Naming
  /-- The table that the query was made for, if it was made for one. -/
  table : Option String

namespace TableQuery

/-- A query for every item. -/
def all (row : RowType) (naming : Naming) (table : Option String) : TableQuery :=
  ⟨row, .all, .untyped, naming, table⟩

/-- The query with its specification changed. -/
def withSpec (q : TableQuery) (change : QuerySpec → QuerySpec) : TableQuery :=
  { q with spec := change q.spec }

/-- Adds a condition. -/
def filter (q : TableQuery) (predicate : Argument) : Built TableQuery :=
  (predicate.toExpr "predicate").map fun e => q.withSpec fun spec =>
    { spec with filter := some (match spec.filter with
        | none => e
        | some current => .binary .and current e) }

/-- Sorts by a key, in place of any ordering before. -/
def orderBy (q : TableQuery) (key : Argument) (ascending : Bool) : Built TableQuery :=
  (key.toField "order key").map fun e => q.withSpec fun spec =>
    { spec with ordering := [⟨e, ascending⟩] }

/-- Sorts items that the keys so far leave tied by one more key. -/
def thenBy (q : TableQuery) (key : Argument) (ascending : Bool) : Built TableQuery :=
  (key.toField "order key").map fun e => q.withSpec fun spec =>
    { spec with ordering := spec.ordering ++ [⟨e, ascending⟩] }

/-- The names that cannot be given to columns. -/
def unusableColumnNames : List String :=
  ["self", "into"]

/-- The columns that the arguments of a selection stand for, of which there has to be one. -/
def checkSelection (fields : List Argument) (named : List (String × Argument)) :
    Built Selection := do
  if named.any fun (name, _) => unusableColumnNames.contains name then .error .unusableColumnName
  let own ← fields.mapM selectColumns
  let given ← named.mapM fun (name, a) => (a.toField "selection").map (name, ·)
  let selection := own.flatten ++ given
  if selection.isEmpty then .error .emptySelection
  else return selection

/-- Selects fields under their own names and fields with names given to them. -/
def select (q : TableQuery) (fields : List Argument) (named : List (String × Argument))
    (into : RowType) : Built TableQuery :=
  (checkSelection fields named).map fun selection =>
    { q with spec := { q.spec with selection := some selection }, into := into }

/-- What is wrong with a number of items, which is shown if it can be. -/
def countFault (fault : String → InvalidCall) (count : Value) : InvalidCall :=
  if count.isShowable then fault count.display else .tooLong

/-- Skips more items. -/
def skip (q : TableQuery) (count : Value) : Built TableQuery :=
  match count.asInt? with
  | some (.ofNat n) => .ok (q.withSpec fun spec => { spec with skip := spec.skip + n })
  | _ => .error (countFault .skipCount count)

/-- The limit that a positive integer sets. -/
def limit? (count : Value) : Option Limit :=
  match count.asInt? with
  | some (.ofNat (n + 1)) => some ⟨n + 1, if count.hasText then some count.toText else none⟩
  | _ => none

/-- Limits the number of items; of equal limits the earlier one stays. -/
def take (q : TableQuery) (count : Value) : Built TableQuery :=
  match limit? count with
  | some limit => .ok (q.withSpec fun spec =>
      { spec with take := some (match spec.take with
          | none => limit
          | some current => if limit.count < current.count then limit else current) })
  | none => .error (countFault .takeCount count)

/-- Asks for deleted items too, or not. -/
def includeDeleted (q : TableQuery) (enabled : Value) : TableQuery :=
  q.withSpec fun spec => { spec with includeDeleted := enabled.isTruthy }

/-- Asks for the number of all matching items, or not. -/
def includeCount (q : TableQuery) (enabled : Value) : TableQuery :=
  q.withSpec fun spec => { spec with includeCount := enabled.isTruthy }

/-- Names that belong to the service start with a dollar sign or two underscores. -/
def isReserved (name : String) : Bool :=
  match name.toList with
  | '$' :: _ => true
  | '_' :: '_' :: _ => true
  | _ => false

/-- The text that a value is, unless there is nothing but blanks in it. -/
def filledText? (v : Value) : Option String :=
  v.asText?.filter fun s => !Text.allBlank s

/-- The name that a value is, unless there is nothing but blanks in it. -/
def filledName? (v : Value) : Option Name :=
  v.asName?.filter fun name => !Text.allBlank name.text

/-- The name and value of a parameter that may be set. -/
def checkParameter (entry : Value × Value) : Built Component :=
  match filledName? entry.1, filledText? entry.2 with
  | none, _ => .error .blankParameterName
  | some name, none => .error (.blankParameterValue name.written)
  | some name, some value =>
    if isReserved name.text then .error (.reservedParameter name.written)
    else .ok (name, value)

/-- The entries of a dictionary: of those with the same key, the last one counts. -/
def distinctEntries (entries : List (Value × Value)) : List (Value × Value) :=
  entries.foldl (fun acc entry => Value.insertEntry entry.1 entry.2 acc) []

/-- The names and values of several parameters, all of which may be set. -/
def checkParameters (entries : List (Value × Value)) : Built (List Component) :=
  if entries.any fun entry => !entry.1.isKey then .error .unusableParameterName
  else if (distinctEntries entries).isEmpty then .error .noParameters
  else (distinctEntries entries).mapM checkParameter

/-- Sets several parameters, or none if one of them may not be set. -/
def withParameters (q : TableQuery) (entries : List (Value × Value)) : Built TableQuery :=
  (checkParameters entries).map fun given => q.withSpec fun spec =>
    { spec with parameters :=
        given.foldl (fun acc entry => setComponent entry.1 entry.2 acc) spec.parameters }

/-- Sets one parameter. -/
def withParameter (q : TableQuery) (name value : Value) : Built TableQuery :=
  q.withParameters [(name, value)]

end TableQuery

end PagedTables
