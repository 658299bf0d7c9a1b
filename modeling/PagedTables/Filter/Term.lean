import PagedTables.Expr.Basic

/-!
# Filter terms

What a filter text says: operators between parentheses, negations, calls with arguments between
commas, and at the leaves the texts of literals and the paths of fields.
-/
namespace PagedTables

/-- A filter, as a tree. -/
inductive FilterTerm where
  | literal (text : String)
  | field (path : String)
  | not (operand : FilterTerm)
  | binary (op : BinaryOp) (left right : FilterTerm)
  | call (name : String) (arguments : List FilterTerm)

namespace FilterTerm

mutual

/-- The text of a filter. -/
def toText : FilterTerm → String
  | literal text => text
  | field path => path
  | not operand => "not(" ++ toText operand ++ ")"
  | binary op left right => "(" ++ toText left ++ " " ++ op.token ++ " " ++ toText right ++ ")"
  | call name arguments => name ++ "(" ++ ",".intercalate (toTexts arguments) ++ ")"

/-- The texts of the filters of a list. -/
def toTexts : List FilterTerm → List String
  | [] => []
  | t :: rest => toText t :: toTexts rest

end

end FilterTerm

end PagedTables
