import PagedTables.Expr.Equivalence
import PagedTables.Query.Clauses
import PagedTables.Text.Percent
import PagedTables.Value.Text

/-!
# Query specifications

A specification says which items of a table a query asks for and in what shape. Two of them are
the same when all their parts are, with trees compared as trees and the caller's parameters in any
order. The comparison goes from part to part, and what it comes to may signal.

The components of a specification are the names and values that are sent, in a fixed order: the
parts that are not at their default, then the caller's parameters. A query string is made of the
components; values are percent encoded and names are not. Names count by the texts that they are,
and limits by their numbers; but what is sent is what is written for them.
-/
namespace PagedTables

/-- A name and the value that goes with it. -/
abbrev Component := Name × String

/-- The components with a name set to a value, in the name's old place or else at the end. -/
def setComponent (name : Name) (value : String) : List Component → List Component
  | [] => [(name, value)]
  | (n, v) :: rest =>
    if n.text = name.text then (n, value) :: rest else (n, v) :: setComponent name value rest

/-- The greatest number of items that a query asks for. -/
structure Limit where
  count : Nat
  /-- The text of the value that the number was given as, if it has one. -/
  written : Option String
  deriving DecidableEq

/-- What a query asks for. -/
structure QuerySpec where
  filter : Option Expr
  ordering : List SortKey
  selection : Option Selection
  skip : Nat
  take : Option Limit
  includeDeleted : Bool
  includeCount : Bool
  parameters : List Component

namespace QuerySpec

/-- Every item in any order, with all of its fields. -/
def all : QuerySpec where
  filter := none
  ordering := []
  selection := none
  skip := 0
  take := none
  includeDeleted := false
  includeCount := false
  parameters := []

/-- Lists whose elements are equal one by one. -/
def agree {α : Type} (equal : α → α → Comparison) : List α → List α → Comparison
  | [], ys => .ok ys.isEmpty
  | _ :: _, [] => .ok false
  | x :: xs, y :: ys => (equal x y).andThen (agree equal xs ys)

/-- Both absent, or both there and equal. -/
def agreeOption {α : Type} (equal : α → α → Comparison) : Option α → Option α → Comparison
  | none, none => .ok true
  | some x, some y => equal x y
  | _, _ => .ok false

/-- Comparison of sort keys. -/
def sameKey (a b : SortKey) : Comparison :=
  (a.member.equivalent b.member).andThen (.ok (a.ascending == b.ascending))

/-- Comparison of columns. -/
def sameColumn (a b : String × Expr) : Comparison :=
  .andThen (.ok (a.1 == b.1)) (a.2.equivalent b.2)

/-- The parameters as pairs of texts. -/
def parameterTexts (spec : QuerySpec) : List (String × String) :=
  spec.parameters.map fun (name, value) => (name.text, value)

/-- Comparison of the parts that are no trees. -/
def sameOptions (a b : QuerySpec) : Bool :=
  a.skip == b.skip && a.take.map Limit.count == b.take.map Limit.count &&
    a.includeDeleted == b.includeDeleted && a.includeCount == b.includeCount &&
    a.parameterTexts.isPerm b.parameterTexts

/-- Comparison of specifications. -/
def same (a b : QuerySpec) : Comparison :=
  (agreeOption Expr.equivalent a.filter b.filter).andThen
    ((agree sameKey a.ordering b.ordering).andThen
      ((agreeOption (agree sameColumn) a.selection b.selection).andThen
        (.ok (a.sameOptions b))))

/-- A text that is written, unless it has too many digits to be made. -/
def writtenText (text? : Option String) : Except Refusal String :=
  text?.elim (.error .tooLong) .ok

/-- The text of a number of items. -/
def countText? (n : Nat) : Option String :=
  if Text.isWritable n then some n.repr else none

/-- The components that a specification has of its own, in the order in which they are sent. -/
def ownComponents (spec : QuerySpec) (schema : Schema) :
    Except Refusal (List Component) := do
  let filter ← spec.filter.toList.mapM (Expr.filterText schema)
  let keys := if spec.ordering.isEmpty then [] else [spec.ordering]
  let ordering ← keys.mapM (orderingText schema)
  let selection ← (spec.selection.toList.filter (!·.isEmpty)).mapM (selectionText schema)
  let skip ← (if 0 < spec.skip then [spec.skip] else []).mapM fun n => writtenText (countText? n)
  let take ← spec.take.toList.mapM fun limit => writtenText limit.written
  let named (name : String) (values : List String) : List Component :=
    values.map (Name.plain name, ·)
  return named "$count" (if spec.includeCount then ["true"] else []) ++
    named "$filter" filter ++ named "$orderby" ordering ++ named "$select" selection ++
    named "$skip" skip ++ named "$top" take ++
    named "__includedeleted" (if spec.includeDeleted then ["true"] else [])

/-- The components of a specification, with or without the caller's parameters. -/
def components (spec : QuerySpec) (schema : Schema) (withParameters : Bool) :
    Except Refusal (List Component) :=
  (spec.ownComponents schema).map fun own =>
    if withParameters then own ++ spec.parameters else own

end QuerySpec

/-- One component in a query string. -/
def componentText (component : Component) : String :=
  component.1.written ++ "=" ++ Text.percentEncode component.2

/-- The query string of some components. -/
def queryStringOf (components : List Component) : String :=
  "&".intercalate (components.map componentText)

/-- The query string of a specification. -/
def QuerySpec.queryString (spec : QuerySpec) (schema : Schema) (withParameters : Bool) :
    Except Refusal String :=
  (spec.components schema withParameters).map queryStringOf

end PagedTables
