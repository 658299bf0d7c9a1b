import PagedTables.Fault
import PagedTables.Page.Basic

/-!
# Cursors

A stream of results is read by cursors. Each cursor starts at the first page and follows the
links; a page is fetched when it is asked for and not before. A cursor whose fetch failed asks for
the same page again when it is advanced again, and one that has come to the end stays there.
Before every fetch the cursor looks whether the stream has been cancelled.

A fetch may depend on the outside and may change it. The stream remembers the last page that any
cursor fetched and the last count that any page carried.
-/
namespace PagedTables

/-- Where a cursor stands. -/
inductive CursorState where
  | notStarted
  | hasPage
  | exhausted
  | failed
  deriving DecidableEq

/-- The result of advancing a cursor. -/
inductive Advance (α : Type) where
  | next (a : α)
  | done
  | failed (fault : Fault)

/-- What a stream remembers of the pages that were fetched. -/
structure Stream (κ ι : Type) where
  count : Option κ
  lastPage : Option (Page κ ι)

/-- A fetch of the first page, or of the page of a link. -/
abbrev Fetch (σ κ ι : Type) := Option Link → σ → Except Fault (Page κ ι) × σ

/-- A stream and the outside that its pages come from. -/
structure Scene (σ κ ι : Type) where
  stream : Stream κ ι
  outside : σ

namespace Stream

variable {κ ι : Type}

/-- Nothing has been fetched. -/
def fresh : Stream κ ι :=
  ⟨none, none⟩

/-- Remembers a page. -/
def observe (s : Stream κ ι) (p : Page κ ι) : Stream κ ι :=
  ⟨p.count.or s.count, some p⟩

end Stream

/-- A cursor on pages. -/
structure PageCursor where
  state : CursorState
  /-- The page to fetch next: the first one if there is no link. -/
  target : Option Link
  fetched : Nat

namespace PageCursor

variable {σ κ ι : Type}

/-- In front of the first page. -/
def start : PageCursor :=
  ⟨.notStarted, none, 0⟩

/-- No page is left. -/
def isAtEnd (c : PageCursor) : Bool :=
  match c.state, c.target with
  | .exhausted, _ => true
  | .hasPage, none => true
  | _, _ => false

/-- Fetches the next page, unless there is none or the stream has been cancelled. -/
def advance (fetch : Fetch σ κ ι) (cancelled : Bool) (c : PageCursor) (s : Scene σ κ ι) :
    Advance (Page κ ι) × PageCursor × Scene σ κ ι :=
  if c.isAtEnd then (.done, { c with state := .exhausted }, s)
  else if cancelled then (.failed (.cancelled c.fetched), { c with state := .failed }, s)
  else
    match fetch c.target s.outside with
    | (.ok p, outside) =>
      (.next p, ⟨.hasPage, p.next, c.fetched + 1⟩, ⟨s.stream.observe p, outside⟩)
    | (.error fault, outside) =>
      (.failed fault, { c with state := .failed }, { s with outside := outside })

end PageCursor

/-- A cursor on items. -/
structure ItemCursor (ι : Type) where
  pages : PageCursor
  /-- The items of the last page that have not been given out. -/
  pending : List ι

namespace ItemCursor

variable {σ κ ι : Type}

/-- In front of the first item. -/
def start : ItemCursor ι :=
  ⟨.start, []⟩

/--
The next item. Pages without items are skipped; after as many fetches as are allowed the search is
abandoned.
-/
def nextWithin (fetch : Fetch σ κ ι) (cancelled : Bool) :
    Nat → ItemCursor ι → Scene σ κ ι → Advance ι × ItemCursor ι × Scene σ κ ι
  | _, ⟨pages, item :: rest⟩, s => (.next item, ⟨pages, rest⟩, s)
  | 0, ⟨pages, []⟩, s => (.failed .abandoned, ⟨pages, []⟩, s)
  | fuel + 1, ⟨pages, []⟩, s =>
    match pages.advance fetch cancelled s with
    | (.next p, pages, s) => nextWithin fetch cancelled fuel ⟨pages, p.items⟩ s
    | (.done, pages, s) => (.done, ⟨pages, []⟩, s)
    | (.failed fault, pages, s) => (.failed fault, ⟨pages, []⟩, s)

end ItemCursor

end PagedTables
