import PagedTables.Filter.Basic

/-!
# Sort keys and selections

The clauses of a query beside its filter. Sort keys and selected columns have to be fields. A
field that is selected under several names is sent once.
-/
namespace PagedTables

/-- The path of an expression that is a field. -/
def Expr.fieldText (schema : Schema) (clause : Clause) (e : Expr) : Except Refusal String :=
  match e with
  | field path => schema.resolve clause path
  | e => .error (e.refusal clause .notAField)

/-- A sort key: a field and its direction. -/
structure SortKey where
  member : Expr
  ascending : Bool

/-- The text of one sort key. -/
def SortKey.text (schema : Schema) (key : SortKey) : Except Refusal String :=
  (key.member.fieldText schema Clause.orderBy).map fun name =>
    if key.ascending then name else name ++ " desc"

/-- The text of sort keys, the first one first. -/
def orderingText (schema : Schema) (keys : List SortKey) : Except Refusal String :=
  (keys.mapM (SortKey.text schema)).map ",".intercalate

/-- The selected fields of a query with the names they get in the result. -/
abbrev Selection := List (String × Expr)

/-- The columns of a selection. -/
def selectionColumns (schema : Schema) (selection : Selection) : Except Refusal Columns :=
  selection.mapM fun (out, e) => (e.fieldText schema Clause.select).map (out, ·)

/-- The list without later repetitions. -/
def firstOccurrences : List String → List String
  | [] => []
  | s :: rest => s :: (firstOccurrences rest).filter (· ≠ s)

/-- The text of a selection: each name at the service once, in order of first selection. -/
def selectionText (schema : Schema) (selection : Selection) : Except Refusal String :=
  (selectionColumns schema selection).map fun columns =>
    ",".intercalate (firstOccurrences (columns.map Prod.snd))

end PagedTables
