import PagedTables.Expr.Build

/-!
# Equivalence of expressions

Two expressions are equivalent when they are the same tree: the same kinds of node, operators,
names and paths, and constants of the same type that are equal values. Names are equal as the texts
that they are, whatever is written for them. The comparison never looks at what an expression
means, so `a + b` and `b + a` are different. It goes from left to right and signals when it comes
to constants whose comparison does.
-/
namespace PagedTables

/-- Comparison of values that are only equal when they are of one type. -/
def Value.identical (a b : Value) : Comparison :=
  .andThen (.ok (a.typeName == b.typeName)) (a.equal b)

namespace Expr

mutual

/-- Comparison of trees. -/
def equivalent : Expr → Expr → Comparison
  | constant x, other => match other with
    | constant y => x.identical y
    | _ => .ok false
  | field p, other => match other with
    | field q => .ok (p.names == q.names)
    | _ => .ok false
  | unary op x, other => match other with
    | unary op' y => .andThen (.ok (op == op')) (equivalent x y)
    | _ => .ok false
  | binary op x y, other => match other with
    | binary op' x' y' =>
      .andThen (.ok (op == op')) ((equivalent x x').andThen (equivalent y y'))
    | _ => .ok false
  | call name xs, other => match other with
    | call name' ys => .andThen (.ok (name.text == name'.text)) (allEquivalent xs ys)
    | _ => .ok false
  | foreign s, other => match other with
    | foreign t => .ok (s == t)
    | _ => .ok false

/-- Comparison of lists of trees, one by one. -/
def allEquivalent : List Expr → List Expr → Comparison
  | [], ys => .ok ys.isEmpty
  | x :: xs, ys => match ys with
    | [] => .ok false
    | y :: ys => (equivalent x y).andThen (allEquivalent xs ys)

end

end Expr

/-- Comparison of operands. Plain values cannot be asked, and are equivalent to no expression. -/
def Operand.equivalent (a b : Operand) : Except BuildFault Bool :=
  match a, b with
  | .node x, .node y => (x.equivalent y).mapError fun s => .operation (.signal s)
  | .node _, .plain _ => .ok false
  | .plain _, _ => .error .unknownMember

end PagedTables
