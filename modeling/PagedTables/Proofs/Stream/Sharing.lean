import Mathlib.Data.List.Induction
import PagedTables.Proofs.Stream.Search

/-!
# Traversals that share a stream

Several traversals of one stream at a time, by pages or by items. Each of them is opened at some
moment and advanced when it is its turn, and nothing is said about the order of the turns. A search
for an item is given up when it meets with more pages than it may; a search that comes to an end
is one that may meet with enough of them.

The main result is about fetches whose answers depend on nothing but the page that is asked for. It
says that the traversals do not disturb each other, although all of them write to what the stream
remembers: each one comes to what it comes to alone. What the stream remembers are the pages in the
order in which they were fetched, whoever fetched them.
-/
namespace PagedTables

variable {σ κ ι : Type}

/-- A traversal of a stream. -/
inductive Traversal (ι : Type) where
  | byPage (cursor : PageCursor)
  | byItem (cursor : ItemCursor ι)

/-- What an advance of a traversal comes to. -/
inductive Outcome (κ ι : Type) where
  | page (result : Advance (Page κ ι))
  | item (result : Advance ι)

/-- What a traversal goes through. -/
inductive Stride where
  | byPage
  | byItem

namespace Traversal

/-- In front of the first page. -/
def start : Stride → Traversal ι
  | .byPage => byPage .start
  | .byItem => byItem .start

/-- Advances a traversal; a search for an item may meet with as many pages as the limit. -/
def advance (fetch : Fetch σ κ ι) (limit : Nat) (t : Traversal ι) (s : Scene σ κ ι) :
    Outcome κ ι × Traversal ι × Scene σ κ ι :=
  match t with
  | byPage c =>
    let answer := c.advance fetch false s
    (.page answer.1, byPage answer.2.1, answer.2.2)
  | byItem c =>
    let answer := c.nextWithin fetch false (limit + 1) s
    (.item answer.1, byItem answer.2.1, answer.2.2)

/-- The fetches that an advance makes, in order. -/
def fetches (fetch : Fetch σ κ ι) (limit : Nat) (t : Traversal ι) (s : Scene σ κ ι) :
    List (Fetched κ ι) :=
  (t.advance (noted fetch) limit (s.noted [])).2.2.outside.2

/-- What a traversal comes to when it is advanced again and again, by itself. -/
def outcomes (fetch : Fetch σ κ ι) : List Nat → Traversal ι → Scene σ κ ι → List (Outcome κ ι)
  | [], _, _ => []
  | limit :: rest, t, s =>
    (t.advance fetch limit s).1 ::
      outcomes fetch rest (t.advance fetch limit s).2.1 (t.advance fetch limit s).2.2

end Traversal

/-- What is done with a stream that is shared. -/
inductive SharedAction where
  /-- Opens one more traversal. -/
  | opening (stride : Stride)
  /-- Advances a traversal, which is known by how many were opened before it. -/
  | turn (traversal limit : Nat)

/-- One turn of a traversal. -/
structure SharedTurn (κ ι : Type) where
  traversal : Nat
  limit : Nat
  outcome : Outcome κ ι
  fetches : List (Fetched κ ι)
  /-- What the stream remembers afterwards. -/
  streamAfter : Stream κ ι

namespace SharedAction

/-- The traversals that some actions open, in order. -/
def opened (actions : List SharedAction) : List Stride :=
  actions.filterMap fun action => match action with
    | opening stride => some stride
    | turn .. => none

/-- The turns of some actions on open traversals; one that has not been opened has no turn. -/
def turns (fetch : Fetch σ κ ι) :
    List SharedAction → List (Traversal ι) → Scene σ κ ι → List (SharedTurn κ ι)
  | [], _, _ => []
  | opening stride :: rest, ts, s => turns fetch rest (ts ++ [.start stride]) s
  | turn i limit :: rest, ts, s =>
    match ts[i]? with
    | none => turns fetch rest ts s
    | some t =>
      ⟨i, limit, (t.advance fetch limit s).1, t.fetches fetch limit s,
          (t.advance fetch limit s).2.2.stream⟩ ::
        turns fetch rest (ts.set i (t.advance fetch limit s).2.1) (t.advance fetch limit s).2.2

end SharedAction

namespace SharedTurn

/-- The turns of one traversal. -/
def ofTraversal (i : Nat) (turns : List (SharedTurn κ ι)) : List (SharedTurn κ ι) :=
  turns.filter fun turn => turn.traversal = i

/-- The pages that were fetched in some turns. -/
def pages (turns : List (SharedTurn κ ι)) : List (Page κ ι) :=
  pagesOf (turns.flatMap fetches)

end SharedTurn

/-- What a fetch answers depends on its target alone. -/
def SteadyFetch (fetch : Fetch σ κ ι) : Prop :=
  ∀ target outside outside', (fetch target outside).1 = (fetch target outside').1

/-! ## What an advance depends on -/

section Steady

variable {fetch : Fetch σ κ ι}

theorem PageCursor.advance_of_steady
    (hsteady : SteadyFetch fetch) (cancelled : Bool) (c : PageCursor) (s s' : Scene σ κ ι) :
    (c.advance fetch cancelled s).1 = (c.advance fetch cancelled s').1 ∧
      (c.advance fetch cancelled s).2.1 = (c.advance fetch cancelled s').2.1 := by
  have hanswer := hsteady c.target s.outside s'.outside
  rw [advance, advance]
  split
  · exact ⟨rfl, rfl⟩
  · split
    · exact ⟨rfl, rfl⟩
    · rcases hfirst : fetch c.target s.outside with ⟨answer, outside⟩
      rcases hsecond : fetch c.target s'.outside with ⟨answer', outside'⟩
      rw [hfirst, hsecond] at hanswer
      obtain rfl : answer = answer' := hanswer
      cases answer with
      | error fault => exact ⟨rfl, rfl⟩
      | ok p => exact ⟨rfl, rfl⟩

theorem ItemCursor.nextWithin_of_steady
    (hsteady : SteadyFetch fetch) (cancelled : Bool) (fuel : Nat) (c : ItemCursor ι)
    (s s' : Scene σ κ ι) :
    (c.nextWithin fetch cancelled fuel s).1 = (c.nextWithin fetch cancelled fuel s').1 ∧
      (c.nextWithin fetch cancelled fuel s).2.1 = (c.nextWithin fetch cancelled fuel s').2.1 := by
  induction fuel generalizing c s s' with
  | zero =>
      rcases c with ⟨pages, _ | ⟨item, rest⟩⟩
      · exact ⟨rfl, rfl⟩
      · exact ⟨rfl, rfl⟩
  | succ fuel ih =>
      rcases c with ⟨pages, _ | ⟨item, rest⟩⟩
      · obtain ⟨hresult, hcursor⟩ := pages.advance_of_steady hsteady cancelled s s'
        rw [nextWithin, nextWithin]
        rcases hfirst : pages.advance fetch cancelled s with ⟨result, pages', t⟩
        rcases hsecond : pages.advance fetch cancelled s' with ⟨result', pages'', t'⟩
        rw [hfirst, hsecond] at hresult hcursor
        obtain rfl : result = result' := hresult
        obtain rfl : pages' = pages'' := hcursor
        cases result with
        | next p => exact ih ⟨pages', p.items⟩ t t'
        | done => exact ⟨rfl, rfl⟩
        | failed fault => exact ⟨rfl, rfl⟩
      · exact ⟨rfl, rfl⟩

/-- What an advance comes to does not depend on what others have done to the stream. -/
theorem Traversal.advance_of_steady
    (hsteady : SteadyFetch fetch) (limit : Nat) (t : Traversal ι) (s s' : Scene σ κ ι) :
    (t.advance fetch limit s).1 = (t.advance fetch limit s').1 ∧
      (t.advance fetch limit s).2.1 = (t.advance fetch limit s').2.1 := by
  cases t with
  | byPage c =>
      obtain ⟨hresult, hcursor⟩ := c.advance_of_steady hsteady false s s'
      exact ⟨congrArg Outcome.page hresult, congrArg byPage hcursor⟩
  | byItem c =>
      obtain ⟨hresult, hcursor⟩ := c.nextWithin_of_steady hsteady false (limit + 1) s s'
      exact ⟨congrArg Outcome.item hresult, congrArg byItem hcursor⟩

/--
The turns of a traversal, of those that are open and those that will be, come to what its advances
alone come to.
-/
theorem SharedAction.outcomes_turns
    (hsteady : SteadyFetch fetch) (actions : List SharedAction) (ts : List (Traversal ι))
    (s s' : Scene σ κ ι) {i : Nat} {t : Traversal ι}
    (ht : (ts ++ (opened actions).map Traversal.start)[i]? = some t) :
    (SharedTurn.ofTraversal i (turns fetch actions ts s)).map SharedTurn.outcome =
      t.outcomes fetch
        ((SharedTurn.ofTraversal i (turns fetch actions ts s)).map SharedTurn.limit) s' := by
  induction actions generalizing ts s s' t with
  | nil => rfl
  | cons action rest ih =>
      cases action with
      | opening stride =>
          have hmoved : ts ++ (opened (opening stride :: rest)).map Traversal.start =
              (ts ++ [.start stride]) ++ (opened rest).map Traversal.start := by
            simp [opened]
          rw [hmoved] at ht
          exact ih (ts ++ [.start stride]) s s' ht
      | turn j limit =>
          have hsame : opened (turn j limit :: rest) = opened rest := rfl
          rw [hsame] at ht
          rw [turns]
          cases hj : ts[j]? with
          | none => exact ih ts s s' ht
          | some u =>
              have hlt : j < ts.length := (List.getElem?_eq_some_iff.mp hj).1
              by_cases hij : j = i
              · subst hij
                have htu : t = u := by
                  rw [List.getElem?_append_left hlt, hj] at ht
                  exact (Option.some.inj ht).symm
                subst htu
                obtain ⟨hresult, hcursor⟩ := t.advance_of_steady hsteady limit s s'
                have hnext : (ts.set j (t.advance fetch limit s).2.1 ++
                    (opened rest).map Traversal.start)[j]? =
                      some (t.advance fetch limit s).2.1 := by
                  rw [List.getElem?_append_left (by simpa using hlt)]
                  simp [hlt]
                have hrest := ih _ (t.advance fetch limit s).2.2 (t.advance fetch limit s').2.2
                  hnext
                simp only [SharedTurn.ofTraversal, List.filter_cons, decide_true, if_true,
                  List.map_cons, Traversal.outcomes] at hrest ⊢
                rw [hrest, hresult, hcursor]
              · have hother : (ts.set j (u.advance fetch limit s).2.1 ++
                    (opened rest).map Traversal.start)[i]? = some t := by
                  rw [← ht, ← List.set_append_left _ _ hlt, List.getElem?_set_ne hij]
                have hrest := ih _ (u.advance fetch limit s).2.2 s' hother
                simpa [SharedTurn.ofTraversal, hij] using hrest

end Steady

/-! ## What the stream remembers -/

/-- What a stream remembers after some pages. -/
theorem Stream.foldl_observe (s : Stream κ ι) (ps : List (Page κ ι)) :
    ps.foldl observe s =
      ⟨(ps.filterMap Page.count).getLast?.or s.count, ps.getLast?.or s.lastPage⟩ := by
  induction ps using List.reverseRecOn with
  | nil => rfl
  | append_singleton ps p ih =>
      rw [List.foldl_append, ih]
      cases hcount : p.count with
      | none => simp [observe, hcount]
      | some count => simp [observe, hcount]

section Memory

variable {fetch : Fetch σ κ ι} {s s' : Scene σ κ ι} {new : List (Fetched κ ι)}

theorem PageCursor.Step.stream
    {cancelled : Bool} {c after : PageCursor} {result : Advance (Page κ ι)}
    (h : Step fetch cancelled c s result after s' new) :
    s'.stream = (pagesOf new).foldl Stream.observe s.stream := by
  cases h <;> rfl

theorem ItemCursor.Search.stream
    {cancelled : Bool} {fuel : Nat} {c after : ItemCursor ι} {result : Advance ι}
    (h : Search fetch cancelled fuel c s result after s' new) :
    s'.stream = (pagesOf new).foldl Stream.observe s.stream := by
  induction h with
  | item => rfl
  | abandoned => rfl
  | page hstep _ ih => rw [pagesOf_append, List.foldl_append, ← hstep.stream, ih]
  | done hstep => exact hstep.stream
  | failed hstep => exact hstep.stream

/-- What an advance of a traversal can do, with the fetches that it makes. -/
inductive Traversal.Moves (fetch : Fetch σ κ ι) (limit : Nat) :
    Traversal ι → Scene σ κ ι → Outcome κ ι → Traversal ι → Scene σ κ ι →
      List (Fetched κ ι) → Prop
  | byPage {c after : PageCursor} {s s' : Scene σ κ ι} {result : Advance (Page κ ι)}
      {new : List (Fetched κ ι)} (hstep : c.Step fetch false s result after s' new) :
      Moves fetch limit (.byPage c) s (.page result) (.byPage after) s' new
  | byItem {c after : ItemCursor ι} {s s' : Scene σ κ ι} {result : Advance ι}
      {new : List (Fetched κ ι)}
      (hsearch : c.Search fetch false (limit + 1) s result after s' new) :
      Moves fetch limit (.byItem c) s (.item result) (.byItem after) s' new

/-- A traversal makes one of its moves, and the fetches of the move are the noted ones. -/
theorem Traversal.moves_advance (fetch : Fetch σ κ ι) (limit : Nat) (t : Traversal ι)
    (s : Scene σ κ ι) :
    ∃ outcome after s' new, t.advance fetch limit s = (outcome, after, s') ∧
      Moves fetch limit t s outcome after s' new ∧
      ∀ log, t.advance (noted fetch) limit (s.noted log) =
        (outcome, after, s'.noted (log ++ new)) := by
  cases t with
  | byPage c =>
      obtain ⟨result, after, s', new, hadvance, hstep, hnoted⟩ := c.step_advance fetch false s
      refine ⟨.page result, .byPage after, s', new, ?_, .byPage hstep, fun log => ?_⟩
      · rw [advance, hadvance]
      · rw [advance, hnoted]
  | byItem c =>
      obtain ⟨result, after, s', new, hadvance, hsearch, hnoted⟩ :=
        c.search_nextWithin fetch false (limit + 1) s
      refine ⟨.item result, .byItem after, s', new, ?_, .byItem hsearch, fun log => ?_⟩
      · rw [advance, hadvance]
      · rw [advance, hnoted]

/-- The stream remembers the pages that a move fetches. -/
theorem Traversal.Moves.stream
    {limit : Nat} {t after : Traversal ι} {outcome : Outcome κ ι}
    (h : Moves fetch limit t s outcome after s' new) :
    s'.stream = (pagesOf new).foldl Stream.observe s.stream := by
  cases h with
  | byPage hstep => exact hstep.stream
  | byItem hsearch => exact hsearch.stream

theorem Traversal.stream_advance (fetch : Fetch σ κ ι) (limit : Nat) (t : Traversal ι)
    (s : Scene σ κ ι) :
    (t.advance fetch limit s).2.2.stream =
      (pagesOf (t.fetches fetch limit s)).foldl Stream.observe s.stream := by
  obtain ⟨outcome, after, s', new, hadvance, hmoves, hnoted⟩ := t.moves_advance fetch limit s
  have hfetches : t.fetches fetch limit s = new := by
    rw [fetches, hnoted, List.nil_append]
    rfl
  rw [hfetches, hadvance, hmoves.stream]

/-- After each turn the stream remembers the pages of all turns so far, whoever's they were. -/
theorem SharedAction.streamAfter_turns
    (actions : List SharedAction) (ts : List (Traversal ι)) (s : Scene σ κ ι)
    {before after : List (SharedTurn κ ι)} {call : SharedTurn κ ι}
    (h : turns fetch actions ts s = before ++ call :: after) :
    call.streamAfter =
      (SharedTurn.pages (before ++ [call])).foldl Stream.observe s.stream := by
  induction actions generalizing ts s before with
  | nil => simp [turns] at h
  | cons action rest ih =>
      cases action with
      | opening stride =>
          rw [turns] at h
          exact ih (ts ++ [.start stride]) s h
      | turn i limit =>
          rw [turns] at h
          cases ht : ts[i]? with
          | none =>
              rw [ht] at h
              exact ih ts s h
          | some t =>
              rw [ht] at h
              have hstream := t.stream_advance fetch limit s
              cases before with
              | nil =>
                  obtain ⟨rfl, -⟩ := List.cons.inj h
                  simpa [SharedTurn.pages] using hstream
              | cons first before =>
                  obtain ⟨rfl, hrest⟩ := List.cons.inj h
                  rw [ih _ _ hrest, hstream, ← List.foldl_append]
                  simp [SharedTurn.pages]

end Memory

/--
Traversals that share a stream do not disturb each other. Each one comes to what the same advances
come to alone, on a stream that nobody has used, and the stream remembers the last page and the
last count that anyone has fetched.
-/
theorem SharedAction.independent_turns
    {fetch : Fetch σ κ ι} (hsteady : SteadyFetch fetch) (actions : List SharedAction)
    (outside outside' : σ) :
    (∀ i stride, (opened actions)[i]? = some stride →
        (SharedTurn.ofTraversal i (turns fetch actions [] ⟨.fresh, outside⟩)).map
            SharedTurn.outcome =
          (Traversal.start stride).outcomes fetch
            ((SharedTurn.ofTraversal i (turns fetch actions [] ⟨.fresh, outside⟩)).map
              SharedTurn.limit) ⟨.fresh, outside'⟩) ∧
      ∀ before call after,
        turns fetch actions ([] : List (Traversal ι)) ⟨.fresh, outside⟩ =
          before ++ call :: after →
        call.streamAfter.lastPage = (SharedTurn.pages (before ++ [call])).getLast? ∧
          call.streamAfter.count =
            ((SharedTurn.pages (before ++ [call])).filterMap Page.count).getLast? := by
  refine ⟨fun i stride hi => ?_, fun before call after h => ?_⟩
  · have hstart : (([] : List (Traversal ι)) ++ (opened actions).map Traversal.start)[i]? =
        some (.start stride) := by
      rw [List.nil_append, List.getElem?_map, hi, Option.map_some]
    exact outcomes_turns hsteady actions [] ⟨.fresh, outside⟩ ⟨.fresh, outside'⟩ hstart
  · have hmemory := streamAfter_turns actions [] ⟨.fresh, outside⟩ h
    rw [Stream.foldl_observe] at hmemory
    rw [hmemory]
    exact ⟨Option.or_none, Option.or_none⟩

/-- A service that counts its requests; its second page is empty, and its third one fails. -/
def brokenOff : Fetch Nat Nat Nat := fun target asked =>
  (match target with
    | none => .ok ⟨[10, 11], some 3, some ⟨"second", by decide⟩⟩
    | some link =>
      if link.text = "second" then .ok ⟨[], none, some ⟨"third", by decide⟩⟩
      else .error (.outside .timeout "too late"),
    asked + 1)

/-- Two traversals take turns, and the second one is opened after the first has failed. -/
def brokenOffActions : List SharedAction :=
  [.opening .byItem, .turn 0 3, .turn 0 3, .turn 0 3, .opening .byPage, .turn 1 0, .turn 0 3,
    .turn 1 0, .turn 1 0]

theorem SharedAction.independent_turns_brokenOff :
    SteadyFetch brokenOff ∧
      (SharedTurn.ofTraversal 1 (turns brokenOff brokenOffActions [] ⟨.fresh, 0⟩)).map
          SharedTurn.outcome =
        (Traversal.start .byPage).outcomes brokenOff [0, 0, 0] ⟨.fresh, 7⟩ ∧
      ∀ before call after,
        turns brokenOff brokenOffActions ([] : List (Traversal Nat)) ⟨.fresh, 0⟩ =
          before ++ call :: after →
        call.streamAfter.lastPage = (SharedTurn.pages (before ++ [call])).getLast? ∧
          call.streamAfter.count =
            ((SharedTurn.pages (before ++ [call])).filterMap Page.count).getLast? := by
  have hsteady : SteadyFetch brokenOff := fun _ _ _ => rfl
  obtain ⟨houtcomes, hmemory⟩ := independent_turns hsteady brokenOffActions 0 7
  exact ⟨hsteady, houtcomes 1 .byPage rfl, hmemory⟩

end PagedTables
