import PagedTables.Expr.Basic
import PagedTables.Text.Pattern

/-!
# Patterns before expressions

A text or a string of bytes that stands before an expression and the remainder sign is a pattern
with the expression for its argument. What is written is the display of the expression, in which
only ASCII is left for the letters that ask for that, and for bytes.

Only a reference has parts, which are the references that are one name longer. It may stay
unwritten, but any other expression has to be written, and neither is written twice.
-/
namespace PagedTables

/-- Why a pattern cannot be filled in with an expression. -/
inductive FillFault where
  | pattern (fault : PatternFault)
  /-- The name of a part is empty or no text. -/
  | emptyName
  deriving DecidableEq

namespace Expr

/-- The parts of an expression by their names, if it has parts. -/
def part? (kind : PatternKind) : Expr → Option (List Char → Except FillFault Expr)
  | field path => some fun name =>
    if kind = .bytes || name.isEmpty then .error .emptyName
    else .ok (field (path.push (String.ofList name)))
  | _ => none

/-- What a mark writes for an expression. -/
def write (kind : PatternKind) (m : PatternMark) (e : Expr) : Except PatternFault (List Char) :=
  let fitted (cs : List Char) : Except PatternFault (List Char) :=
    if e.isShowable then m.fit cs else .error .integer
  let plain := e.display.toList
  match kind, m.letter with
  | .text, 's' => fitted plain
  | .text, 'r' => fitted plain
  | .bytes, 'r' => fitted (Text.asciiOnly plain)
  | _, 'a' => fitted (Text.asciiOnly plain)
  | _, _ => .error .unfit

/-- A pattern filled in with an expression. -/
def fill (kind : PatternKind) (pattern : List Char) (e : Expr) : Except FillFault (List Char) :=
  let filling : Filling Expr FillFault := {
    kind := kind
    fault := .pattern
    part? := e.part? kind
    integer? := fun _ => none
    write := fun m e => (e.write kind m).mapError .pattern }
  filling.fill [e] pattern

end Expr

end PagedTables
