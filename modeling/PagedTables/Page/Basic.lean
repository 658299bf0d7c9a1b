import PagedTables.Sequence

/-!
# Pages

A page holds some of the items that a query matches, in the order of the service. It may say how
many items match in all, and it has a link to the next page unless it is the last one. A link is
an opaque text that is never empty.
-/
namespace PagedTables

/-- A link to the next page. -/
structure Link where
  text : String
  ne_empty : text ≠ ""
  deriving DecidableEq

/-- The link of a text, if the text is not empty. -/
def Link.ofText? (s : String) : Option Link :=
  if h : s = "" then none else some ⟨s, h⟩

/-- A page of items. -/
structure Page (κ ι : Type) where
  items : List ι
  count : Option κ
  next : Option Link

namespace Page

variable {κ ι : Type}

/-- The page of what is made of the items, unless one of them fails. -/
def mapItems {ε α : Type} (decode : ι → Except ε α) (p : Page κ ι) : Except ε (Page κ α) :=
  (p.items.mapM decode).map fun items => ⟨items, p.count, p.next⟩

/-- Another page follows. -/
def hasMore (p : Page κ ι) : Bool :=
  p.next.isSome

/-- The item at a position, counted from the end if the position is negative. -/
def get? (p : Page κ ι) (position : Int) : Option ι :=
  Sequence.get? p.items position

/-- The items from one bound up to another in steps, which are not zero. -/
def slice? (p : Page κ ι) (start stop step : Option Int) : Option (List ι) :=
  Sequence.slice? p.items start stop step

end Page

end PagedTables
