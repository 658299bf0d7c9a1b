import PagedTables.Value.Display

/-!
# Expressions

The expressions that queries are made of: constants, references to fields, operators and calls
with positional arguments. An expression is only a tree; whether a service can evaluate it is
decided when a filter is made of it. A foreign node is one that some other program defined and whose
meaning is unknown here.
-/
namespace PagedTables

/-- A path of field names from the item outwards; it has at least one name. -/
structure FieldPath where
  first : Name
  rest : List Name
  deriving DecidableEq

namespace FieldPath

/-- The names of a path in order, as the texts that they are. -/
def names (p : FieldPath) : List String :=
  (p.first :: p.rest).map Name.text

/-- The names between points. -/
def dotted (p : FieldPath) : String :=
  ".".intercalate p.names

/-- The last name. -/
def last (p : FieldPath) : Name :=
  p.rest.getLastD p.first

/-- The path one name longer. -/
def push (p : FieldPath) (name : Name) : FieldPath :=
  { p with rest := p.rest ++ [name] }

/-- The path without its last name, if anything is left. -/
def parent? (p : FieldPath) : Option FieldPath :=
  if p.rest.isEmpty then none else some { p with rest := p.rest.dropLast }

end FieldPath

/-- Operators with one operand. -/
inductive UnaryOp where
  | not
  | negate
  deriving DecidableEq

/-- Operators with two operands. -/
inductive BinaryOp where
  | eq | ne | gt | ge | lt | le
  | and | or
  | add | sub | mul | div | mod
  | xor | power | shiftLeft | shiftRight | floorDiv
  deriving DecidableEq

namespace BinaryOp

/-- Every operator. -/
def all : List BinaryOp :=
  [eq, ne, gt, ge, lt, le, and, or, add, sub, mul, div, mod, xor, power, shiftLeft, shiftRight,
    floorDiv]

/-- The name of an operator. Up to `mod` it is also its spelling in filter texts. -/
def token : BinaryOp → String
  | eq => "eq"
  | ne => "ne"
  | gt => "gt"
  | ge => "ge"
  | lt => "lt"
  | le => "le"
  | and => "and"
  | or => "or"
  | add => "add"
  | sub => "sub"
  | mul => "mul"
  | div => "div"
  | mod => "mod"
  | xor => "xor"
  | power => "power"
  | shiftLeft => "lshift"
  | shiftRight => "rshift"
  | floorDiv => "floordiv"

/-- The operator of a name. -/
def ofToken? (s : String) : Option BinaryOp :=
  all.find? fun op => op.token = s

/-- The sign that displays an operator. -/
def symbol : BinaryOp → String
  | eq => "=="
  | ne => "!="
  | gt => ">"
  | ge => ">="
  | lt => "<"
  | le => "<="
  | and => "&"
  | or => "|"
  | add => "+"
  | sub => "-"
  | mul => "*"
  | div => "/"
  | mod => "%"
  | xor => "^"
  | power => "**"
  | shiftLeft => "<<"
  | shiftRight => ">>"
  | floorDiv => "//"

/-- The comparison that says the same with its operands exchanged. -/
def flipped? : BinaryOp → Option BinaryOp
  | eq => some eq
  | ne => some ne
  | gt => some lt
  | ge => some le
  | lt => some gt
  | le => some ge
  | _ => none

/-- Names belong to one operator each. -/
theorem ofToken?_token (op : BinaryOp) : ofToken? op.token = some op := by
  cases op <;> rfl

end BinaryOp

/-- An expression. -/
inductive Expr where
  | constant (value : Value)
  | field (path : FieldPath)
  | unary (op : UnaryOp) (operand : Expr)
  | binary (op : BinaryOp) (left right : Expr)
  | call (name : Name) (arguments : List Expr)
  | foreign (text : String)

namespace Expr

/-- The name of an expression's kind, as messages give it. -/
def kindName : Expr → String
  | constant _ => "ConstantNode"
  | field _ => "MemberAccessNode"
  | unary .. => "UnaryOperatorNode"
  | binary .. => "BinaryOperatorNode"
  | call .. => "FunctionCallNode"
  | foreign _ => "CustomNode"

mutual

/-- The display of an expression: every binary operator stands between parentheses. -/
def display : Expr → String
  | constant value => value.display
  | field path => path.dotted
  | unary .not operand => "~" ++ display operand
  | unary .negate operand => "-" ++ display operand
  | binary op left right => "(" ++ display left ++ " " ++ op.symbol ++ " " ++ display right ++ ")"
  | call name arguments => name.written ++ "(" ++ ", ".intercalate (displays arguments) ++ ")"
  | foreign text => "<" ++ text ++ ">"

/-- The displays of the expressions of a list. -/
def displays : List Expr → List String
  | [] => []
  | e :: rest => display e :: displays rest

end

mutual

/-- The expression can be displayed, as all of its constants can. -/
def isShowable : Expr → Bool
  | constant value => value.isShowable
  | field _ => true
  | unary _ operand => isShowable operand
  | binary _ left right => isShowable left && isShowable right
  | call _ arguments => areShowable arguments
  | foreign _ => true

/-- The expressions of a list can be displayed. -/
def areShowable : List Expr → Bool
  | [] => true
  | e :: rest => isShowable e && areShowable rest

end

end Expr

end PagedTables
