import PagedTables.Expr.Pattern
import PagedTables.Text.Split
import PagedTables.Value.Method

/-!
# Building expressions

The ways to make an expression from parts: references from names, operators on operands of which
some may be plain values, and calls by a function's name, as a method or on a reference. Every
operator and every call can be built; only the parts have to be usable.

A plain value keeps the operations that it has by itself: an operator with one operand, or a method,
makes a plain value of it, and so does a pattern that is filled in with an expression.
-/
namespace PagedTables

/-- What is wrong with the parts of an expression. -/
inductive BuildFault where
  /-- A path has no name, or a name that is empty or no text. -/
  | emptyName
  /-- The text of a reference is blank, or no text. -/
  | blankReference
  /-- Names that start with an underscore are not fields. -/
  | hiddenName
  /-- An expression was used as a condition of the program that builds it. -/
  | noTruthValue
  /-- Only a reference can be called. -/
  | notCallable
  /-- A function or method got too few or too many arguments. -/
  | argumentCount
  /-- There is no function or method of this name. -/
  | unknownMember
  /-- A plain value does not have an operation. -/
  | operation (fault : OperationFault)
  /-- A pattern cannot be filled in with an expression. -/
  | pattern (fault : FillFault)
  deriving DecidableEq, Inhabited

/-- What a built expression or plain value is called by. -/
inductive Operand where
  | plain (value : Value)
  | node (e : Expr)

namespace Operand

/-- A plain value stands for a constant. -/
def toExpr : Operand → Expr
  | plain value => .constant value
  | node e => e

/-- The name of the operand's type. -/
def typeName : Operand → String
  | plain value => value.typeName
  | node e => e.kindName

/-- Nothing was given. -/
def isNull : Operand → Bool
  | plain .null => true
  | _ => false

/-- The pattern that a plain value is in front of the remainder sign. -/
def pattern? : Operand → Option (PatternKind × List Char)
  | plain (.bytes bs) => some (.bytes, bs.map fun b => Char.ofNat b.toNat)
  | plain v => v.characters?.map (.text, ·)
  | node _ => none

/-- The plain value that a pattern becomes. -/
def ofFilled (kind : PatternKind) (cs : List Char) : Operand :=
  plain (match kind with
    | .text => .text (String.ofList cs)
    | .bytes => .bytes (cs.map fun c => UInt8.ofNat c.toNat))

/--
An operator between two operands, at least one of which is an expression, written as an operator.
A plain value in front of an expression keeps its place, except in a comparison, which is turned
round instead; a pattern in front of the remainder sign is filled in, and stays what it is without
a mark.
-/
def combine (op : BinaryOp) (left right : Operand) : Except BuildFault Operand :=
  match left, op.flipped? with
  | plain _, some flipped => .ok (node (.binary flipped right.toExpr left.toExpr))
  | _, _ =>
    match op, left.pattern? with
    | .mod, some (kind, cs) =>
      ((right.toExpr.fill kind cs).mapError .pattern).map fun filled =>
        if cs.contains '%' then ofFilled kind filled else left
    | _, _ => .ok (node (.binary op left.toExpr right.toExpr))

/-- An operator in front of an operand. -/
def apply (op : UnaryOp) : Operand → Except BuildFault Operand
  | node e => .ok (node (.unary op e))
  | plain v =>
    let result := match op with
      | .not => v.complement
      | .negate => v.opposite
    (result.mapError .operation).map plain

/-- The value that an operand is, if it is plain. -/
def value? : Operand → Option Value
  | plain v => some v
  | node _ => none

/-- Whether the operand holds, as a condition; expressions have no truth value. -/
def truth : Operand → Except BuildFault Bool
  | plain value => .ok value.isTruthy
  | node _ => .error .noTruthValue

end Operand

/-- How many arguments the supported functions take. -/
def functionArities : List (String × List Nat) :=
  [("tolower", [1]), ("toupper", [1]), ("length", [1]), ("trim", [1]), ("startswith", [2]),
    ("endswith", [2]), ("contains", [2]), ("concat", [2]), ("indexof", [2]),
    ("substring", [2, 3]), ("replace", [3]), ("year", [1]), ("month", [1]), ("day", [1]),
    ("hour", [1]), ("minute", [1]), ("second", [1]), ("floor", [1]), ("ceiling", [1]),
    ("round", [1])]

namespace Expr

/-- A reference by a path of names. -/
def ofNames (names : List Name) : Except BuildFault Expr :=
  match names with
  | [] => .error .emptyName
  | first :: rest =>
    if first.text.isEmpty || rest.any (·.text.isEmpty) then .error .emptyName
    else .ok (.field ⟨first, rest⟩)

/-- A reference by a path of values, which have to be names. -/
def ofSegments (segments : List Value) : Except BuildFault Expr :=
  match segments.mapM Value.asName? with
  | some names => ofNames names
  | none => .error .emptyName

/-- The name belongs to no field, because it starts with an underscore. -/
def isHidden (name : String) : Bool :=
  name.toList.head? = some '_'

/-- A reference by names that are looked up one after the other. -/
def ofAttributes (names : List String) : Except BuildFault Expr :=
  match names.find? fun name => name.isEmpty || isHidden name with
  | some name => .error (if name.isEmpty then .emptyName else .hiddenName)
  | none => ofNames (names.map Name.plain)

/-- A reference by one text, with points or slashes between its names. -/
def ofReference (reference : Value) : Except BuildFault Expr :=
  match reference.asText? with
  | none => .error .blankReference
  | some s =>
    if Text.allBlank s then .error .blankReference
    else
      let points := s.toList.map fun c => if c = '/' then '.' else c
      ofNames ((Text.splitAt '.' points).map fun cs => String.ofList cs)

/-- A call of any function. -/
def ofCall (name : Name) (arguments : List Operand) : Expr :=
  .call name (arguments.map Operand.toExpr)

/--
A call of one of the supported functions, with as many arguments as it takes. A null in place of
the last argument of `substring` stands for none.
-/
def ofFunction (name : String) (arguments : List Operand) : Except BuildFault Expr :=
  match functionArities.lookup name with
  | none => .error .unknownMember
  | some arities =>
    if !arities.contains arguments.length then .error .argumentCount
    else
      let given := match name, arguments with
        | "substring", [text, start, last] => if last.isNull then [text, start] else arguments
        | _, arguments => arguments
      .ok (ofCall name given)

/-- The functions that are also methods, with how many arguments they take as such. -/
def methods : List (String × String × Nat) :=
  [("lower", "tolower", 0), ("upper", "toupper", 0), ("strip", "trim", 0),
    ("startswith", "startswith", 1), ("endswith", "endswith", 1), ("contains", "contains", 1)]

/-- A reference that is called: its last name is the function and the rest the first argument. -/
def invoke (subject : Operand) (arguments : List Operand) : Except BuildFault Expr :=
  match subject with
  | .node (.field path) =>
    .ok (.call path.last (path.parent?.toList.map Expr.field ++ arguments.map Operand.toExpr))
  | _ => .error .notCallable

/-- A call of a method on an expression; a name that is no method is a field of a reference. -/
def ofMethod (name : String) (subject : Expr) (arguments : List Operand) :
    Except BuildFault Expr :=
  match subject, methods.lookup name with
  | e, some (function, count) =>
    if arguments.length = count then .ok (.call function (e :: arguments.map Operand.toExpr))
    else .error .argumentCount
  | .field path, none =>
    if isHidden name then .error .hiddenName else invoke (.node (.field (path.push name))) arguments
  | _, none => .error .unknownMember

end Expr

/-- A call of a method on an operand. -/
def Operand.method (name : String) (subject : Operand) (arguments : List Operand) :
    Except BuildFault Operand :=
  match subject with
  | .node e => (Expr.ofMethod name e arguments).map .node
  | .plain v =>
    if !v.hasMethod name then .error .unknownMember
    else match (arguments.mapM Operand.value?).bind (v.method? name) with
      | some result => .ok (.plain result)
      | none => .error .argumentCount

end PagedTables
