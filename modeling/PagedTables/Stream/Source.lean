import PagedTables.Stream.Cursor
import PagedTables.Schema.Item

/-!
# Sources of pages

A source fetches pages from an outside that can answer only so often: every page that it gives
uses up some of the supply. So a traversal comes to an end, and no item is searched for forever.

Whole traversals start at the first page. They give all items, all pages, or the items by key;
items are looked up by key one after the other, and the pages behind an item that cannot be stored
are not fetched.
-/
namespace PagedTables

/-- A source of pages. -/
structure PageSource (σ κ ι : Type) where
  fetch : Fetch σ κ ι
  /-- A bound on the number of pages that can still be given. -/
  supply : σ → Nat
  /-- Every page uses up some of the supply. -/
  supply_lt : ∀ (target : Option Link) (outside outside' : σ) (p : Page κ ι),
    fetch target outside = (.ok p, outside') → supply outside' < supply outside

namespace PageSource

variable {σ κ ι β : Type}

/-- The fetches after which nothing can be left. -/
def patience (source : PageSource σ κ ι) (s : Scene σ κ ι) : Nat :=
  source.supply s.outside + 1

/-- Advances a cursor on pages. -/
def nextPage (source : PageSource σ κ ι) (cancelled : Bool) (c : PageCursor)
    (s : Scene σ κ ι) : Advance (Page κ ι) × PageCursor × Scene σ κ ι :=
  c.advance source.fetch cancelled s

/-- Advances a cursor on items. -/
def nextItem (source : PageSource σ κ ι) (cancelled : Bool) (c : ItemCursor ι)
    (s : Scene σ κ ι) : Advance ι × ItemCursor ι × Scene σ κ ι :=
  c.nextWithin source.fetch cancelled (source.patience s) s

/-- Takes in the pages from a cursor on, until one of them cannot be taken in. -/
def foldWithin (fetch : Fetch σ κ ι) (cancelled : Bool) (take : β → Page κ ι → Except Fault β) :
    Nat → β → PageCursor → Scene σ κ ι → Except Fault β × Scene σ κ ι
  | 0, _, _, s => (.error .abandoned, s)
  | fuel + 1, acc, c, s =>
    match c.advance fetch cancelled s with
    | (.next p, c, s) =>
      match take acc p with
      | .ok acc => foldWithin fetch cancelled take fuel acc c s
      | .error fault => (.error fault, s)
    | (.done, _, s) => (.ok acc, s)
    | (.failed fault, _, s) => (.error fault, s)

/-- Takes in all pages of a new traversal. -/
def foldPages (source : PageSource σ κ ι) (cancelled : Bool)
    (take : β → Page κ ι → Except Fault β) (initial : β) (s : Scene σ κ ι) :
    Except Fault β × Scene σ κ ι :=
  foldWithin source.fetch cancelled take (source.patience s) initial .start s

/-- All pages. -/
def allPages (source : PageSource σ κ ι) (cancelled : Bool) (s : Scene σ κ ι) :
    Except Fault (List (Page κ ι)) × Scene σ κ ι :=
  source.foldPages cancelled (fun pages p => .ok (pages ++ [p])) [] s

/-- All items. -/
def toList (source : PageSource σ κ ι) (cancelled : Bool) (s : Scene σ κ ι) :
    Except Fault (List ι) × Scene σ κ ι :=
  source.foldPages cancelled (fun items p => .ok (items ++ p.items)) [] s

/-- Items by their keys, in order. -/
abbrev Index (ι : Type) := List (Value × ι)

/-- Stores an item under its key, which no other item may have. -/
def store (keyOf : ι → Except Fault Value) (index : Index ι) (item : ι) :
    Except Fault (Index ι) := do
  let key ← keyOf item
  if !key.isKey then .error .wrongType
  else if index.any fun entry => entry.1.sameKey key then .error (.duplicateKey key.display)
  else .ok (index ++ [(key, item)])

/-- All items by their keys. -/
def index (source : PageSource σ κ ι) (cancelled : Bool) (keyOf : ι → Except Fault Value)
    (s : Scene σ κ ι) : Except Fault (Index ι) × Scene σ κ ι :=
  source.foldPages cancelled (fun index p => p.items.foldlM (store keyOf) index) [] s

end PageSource

/-- How the key of an item is found. -/
inductive ItemKey where
  /-- The entry or field of a name, which has to be there. -/
  | named (name : String)
  /-- The entry of a name in a dictionary, null if there is none. -/
  | entry (name : String)

/-- The key of an item. -/
def ItemKey.of (key : ItemKey) (item : Item) : Except Fault Value :=
  let find (entries : List (Value × Value)) (name : String) : Option Value :=
    (entries.find? fun entry => entry.1.sameKey (.text name)).map Prod.snd
  match key, item with
  | named name, .plain (.dict entries) =>
    match find entries name with
    | some v => .ok v
    | none => .error .noKey
  | named name, .record r =>
    match (r.fields.lookup name).join with
    | some v => .ok v
    | none => .error .noAttribute
  | entry name, .plain (.dict entries) => .ok ((find entries name).getD .null)
  | _, _ => .error .noAttribute

end PagedTables
