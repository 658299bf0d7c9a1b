import PagedTables.Proofs.Service.Passage
import PagedTables.Proofs.Stream.Sharing

/-!
# A client and its streams at work

Everything that can be done with a client, step by step: it is entered, left and closed, queries are
run and items are counted, and the streams that were obtained are read, by traversals that are
advanced one step at a time or as a whole. The steps come in any order. A stream goes on with the
transport that it was made with, whatever has become of the client in the meantime.
-/
namespace PagedTables

/-- A client at work: what passes between it and the service, and the streams obtained from it. -/
structure Desk where
  client : Client
  exchange : Exchange
  /-- The results obtained so far, each with what its stream remembers. -/
  streams : List (Results × Stream Int Item)
  /-- The traversals begun so far, each with the place of its stream. -/
  traversals : List (Nat × Traversal Item)

/-- What a stream is read for as a whole. -/
inductive Reading where
  | items
  | pages
  | byKey (key : ItemKey)

/-- A step of a client or of one of its streams. -/
inductive ClientStep where
  | enter
  | leave
  | close
  /-- A query is run on a table. -/
  | execute (table : Value) (q : TableQuery)
  /-- A query is run on the table that it was made for. -/
  | run (q : TableQuery)
  /-- A query string is run on a table. -/
  | get (table query : Value) (row : RowType)
  | count (table : Value) (q : Option TableQuery)
  /-- Time passes. -/
  | clock (now : Value)
  /-- A traversal of a stream is begun. -/
  | traverse (stream : Nat) (stride : Stride)
  /-- A traversal is advanced, its stream being cancelled or not. -/
  | advance (traversal : Nat) (cancelled : Bool)
  /-- A stream is read as a whole. -/
  | read (stream : Nat) (cancelled : Bool) (reading : Reading)

/-- Advances a traversal of a source. -/
def Traversal.next {σ κ ι : Type} (source : PageSource σ κ ι) (cancelled : Bool) (t : Traversal ι)
    (s : Scene σ κ ι) : Traversal ι × Scene σ κ ι :=
  match t with
  | byPage c => (.byPage (source.nextPage cancelled c s).2.1, (source.nextPage cancelled c s).2.2)
  | byItem c => (.byItem (source.nextItem cancelled c s).2.1, (source.nextItem cancelled c s).2.2)

/-- The scene after a source has been read as a whole. -/
def Reading.perform {σ κ : Type} (source : PageSource σ κ Item) (cancelled : Bool)
    (s : Scene σ κ Item) : Reading → Scene σ κ Item
  | items => (source.toList cancelled s).2
  | pages => (source.allPages cancelled s).2
  | byKey key => (source.index cancelled key.of s).2

namespace Desk

/-- A client that nothing has been done with. -/
def start (c : Client) (e : Exchange) : Desk :=
  ⟨c, e, [], []⟩

/-- The client after a change, and the results that it gave, if any, with a stream of their own. -/
def obtain (d : Desk) (answer : Except Fault Results × Client) : Desk :=
  { d with
    client := answer.2
    streams := d.streams ++ answer.1.toOption.toList.map fun results => (results, .fresh) }

/-- The stream of some results after it has been read. -/
def withStream (d : Desk) (i : Nat) (results : Results) (s : Scene Exchange Int Item) : Desk :=
  { d with exchange := s.outside, streams := d.streams.set i (results, s.stream) }

end Desk

/-- Makes a step. What is not there yet is not read. -/
def ClientStep.perform (d : Desk) : ClientStep → Desk
  | enter => { d with
      client := (d.client.enter d.exchange).1, exchange := (d.client.enter d.exchange).2 }
  | leave => { d with
      client := (d.client.close d.exchange).1, exchange := (d.client.close d.exchange).2 }
  | close => { d with
      client := (d.client.close d.exchange).1, exchange := (d.client.close d.exchange).2 }
  | execute table q => d.obtain (d.client.execute table q)
  | run q => d.obtain (d.client.run q)
  | get table query row => d.obtain (d.client.get table query row)
  | count table q => { d with
      client := (d.client.count table q d.exchange).2.1
      exchange := (d.client.count table q d.exchange).2.2 }
  | clock now => { d with exchange := { d.exchange with now := now } }
  | traverse i stride => { d with traversals := d.traversals ++ [(i, .start stride)] }
  | advance i cancelled =>
    match d.traversals[i]? with
    | none => d
    | some (j, t) =>
      match d.streams[j]? with
      | none => d
      | some (results, stream) =>
        let answer := t.next (d.client.source results) cancelled ⟨stream, d.exchange⟩
        { d.withStream j results answer.2 with traversals := d.traversals.set i (j, answer.1) }
  | read i cancelled reading =>
    match d.streams[i]? with
    | none => d
    | some (results, stream) =>
      d.withStream i results
        (reading.perform (d.client.source results) cancelled ⟨stream, d.exchange⟩)

/-- Makes steps, one after the other. -/
def Desk.run (d : Desk) (steps : List ClientStep) : Desk :=
  steps.foldl ClientStep.perform d

/-! ## What reading a stream keeps -/

theorem ClientStep.client_advance (d : Desk) (i : Nat) (cancelled : Bool) :
    ((advance i cancelled).perform d).client = d.client := by
  rw [perform]
  split
  · rfl
  · split <;> rfl

theorem ClientStep.client_read (d : Desk) (i : Nat) (cancelled : Bool) (reading : Reading) :
    ((read i cancelled reading).perform d).client = d.client := by
  rw [perform]
  split <;> rfl

section Kept

variable {σ κ : Type} {R : σ → σ → Prop} (hrefl : ∀ o, R o o)
  (htrans : ∀ {o o' o''}, R o o' → R o' o'' → R o o'')

include hrefl htrans

theorem Traversal.kept_next
    {ι : Type} {source : PageSource σ κ ι} (hfetch : ∀ target o, R o (source.fetch target o).2)
    (cancelled : Bool) (t : Traversal ι) (s : Scene σ κ ι) :
    R s.outside (t.next source cancelled s).2.outside := by
  cases t with
  | byPage c => exact c.kept_advance hrefl hfetch cancelled s
  | byItem c => exact c.kept_nextWithin hrefl htrans hfetch cancelled _ s

theorem Reading.kept_perform
    {source : PageSource σ κ Item} (hfetch : ∀ target o, R o (source.fetch target o).2)
    (cancelled : Bool) (reading : Reading) (s : Scene σ κ Item) :
    R s.outside (reading.perform source cancelled s).outside := by
  cases reading <;> exact PageSource.kept_foldWithin hrefl htrans hfetch cancelled _ _ _ _ s

end Kept

namespace Client

/-- A stream is read through the session of the transport that it was made with. -/
theorem via_source (c : Client) (results : Results) (target : Option Link) (e : Exchange) :
    e.Via (c.sessionOf results.transport) ((c.source results).fetch target e).2 :=
  c.via_fetch results.transport results.decode results.table _ e

end Client

end PagedTables
