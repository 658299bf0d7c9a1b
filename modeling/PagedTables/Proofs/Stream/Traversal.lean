import PagedTables.Proofs.Stream.Search

/-!
# Traversals

Runs of one cursor on items: it is advanced any number of times, and before each time the stream
may be cancelled or not. Nothing is assumed of the fetch; it may give any pages and faults. A call
that has met with more pages than it is allowed to is given up; a source has no calls of this kind.

The main result says that no item is lost, repeated or put in another place: not by pages without
items, and not by failures and cancellations, wherever in a search for the next item they occur. It
compares a run with one on the same pages that nothing disturbs.
-/
namespace PagedTables

variable {σ κ ι : Type}

/-- The advance neither gives an item nor is at the end. -/
def Advance.isFailed {α : Type} : Advance α → Bool
  | .failed _ => true
  | _ => false

/-- One call in a run of a cursor on items. -/
structure ItemCall (κ ι : Type) where
  cancelled : Bool
  /-- How many pages the call may meet with before the one that it gives an item of. -/
  limit : Nat
  before : ItemCursor ι
  result : Advance ι
  /-- The fetches that the call makes, in order. -/
  fetches : List (Fetched κ ι)
  after : ItemCursor ι

namespace ItemCall

/-- The pages that some calls have fetched. -/
def pages (calls : List (ItemCall κ ι)) : List (Page κ ι) :=
  pagesOf (calls.flatMap fetches)

/-- The items that some calls have given. -/
def given (calls : List (ItemCall κ ι)) : List ι :=
  calls.flatMap fun call => call.result.given

/-- The results of the calls that did not fail. -/
def settled (calls : List (ItemCall κ ι)) : List (Advance ι) :=
  (calls.map result).filter fun r => !r.isFailed

theorem pages_cons (call : ItemCall κ ι) (calls : List (ItemCall κ ι)) :
    pages (call :: calls) = pagesOf call.fetches ++ pages calls := by
  simp [pages]

theorem pages_append (before after : List (ItemCall κ ι)) :
    pages (before ++ after) = pages before ++ pages after := by
  simp [pages]

theorem given_cons (call : ItemCall κ ι) (calls : List (ItemCall κ ι)) :
    given (call :: calls) = call.result.given ++ given calls :=
  rfl

theorem settled_cons (call : ItemCall κ ι) (calls : List (ItemCall κ ι)) :
    settled (call :: calls) =
      (if call.result.isFailed then [] else [call.result]) ++ settled calls := by
  cases hfailed : call.result.isFailed <;> simp [settled, hfailed]

/-- Calls at the end give nothing and fetch nothing. -/
theorem of_forall_done
    {calls : List (ItemCall κ ι)}
    (h : ∀ call ∈ calls, call.result = .done ∧ call.fetches = []) :
    pages calls = [] ∧ given calls = [] ∧
      settled calls = List.replicate calls.length .done := by
  induction calls with
  | nil => exact ⟨rfl, rfl, rfl⟩
  | cons call calls ih =>
      obtain ⟨hdone, hnone⟩ := h call List.mem_cons_self
      obtain ⟨hpages, hgiven, hsettled⟩ := ih fun later hlater =>
        h later (List.mem_cons_of_mem call hlater)
      refine ⟨?_, ?_, ?_⟩
      · rw [pages_cons, hnone, hpages]
        rfl
      · rw [given_cons, hdone, hgiven]
        rfl
      · rw [settled_cons, hdone, hsettled]
        rfl

end ItemCall

namespace ItemCursor

/-- Advances a cursor, and keeps what is seen of it. -/
def call (fetch : Fetch σ κ ι) (limit : Nat) (cancelled : Bool) (c : ItemCursor ι)
    (s : Scene σ κ ι) : ItemCall κ ι where
  cancelled := cancelled
  limit := limit
  before := c
  result := (c.nextWithin fetch cancelled (limit + 1) s).1
  fetches := (c.nextWithin (noted fetch) cancelled (limit + 1) (s.noted [])).2.2.outside.2
  after := (c.nextWithin fetch cancelled (limit + 1) s).2.1

/--
Advances a cursor again and again; each time the stream is cancelled or not. How many pages a call
may meet with depends on the scene.
-/
def calls (fetch : Fetch σ κ ι) (limit : Scene σ κ ι → Nat) :
    List Bool → ItemCursor ι → Scene σ κ ι → List (ItemCall κ ι)
  | [], _, _ => []
  | cancelled :: rest, c, s =>
    c.call fetch (limit s) cancelled s ::
      calls fetch limit rest (c.nextWithin fetch cancelled (limit s + 1) s).2.1
        (c.nextWithin fetch cancelled (limit s + 1) s).2.2

end ItemCursor

/-- Advances a cursor again and again, each time to the next item of a source. -/
def PageSource.itemCalls (source : PageSource σ κ ι) (flags : List Bool) (s : Scene σ κ ι) :
    List (ItemCall κ ι) :=
  ItemCursor.start.calls source.fetch (fun s => source.supply s.outside) flags s

/-- As many calls as given on a script of pages and nothing else, without a cancellation. -/
def undisturbedCalls (ps : List (Page κ ι)) (count : Nat) : List (ItemCall κ ι) :=
  Script.source.itemCalls (List.replicate count false) ⟨.fresh, ⟨ps.map .ok, []⟩⟩

/-- The calls of a run give the items of the pages, and nothing disturbs that. -/
structure FaithfulTraversal (calls : List (ItemCall κ ι)) : Prop where
  /-- The items that are given are the first ones of the pages, in order. -/
  inOrder : ∀ before after, calls = before ++ after →
    ItemCall.given before <+: itemsOf (ItemCall.pages before)
  /-- At the end all items have been given, and the last page has no link. -/
  complete : ∀ before call after, calls = before ++ call :: after → call.result = .done →
    ItemCall.given before = itemsOf (ItemCall.pages (before ++ [call])) ∧
      ∃ p, (ItemCall.pages (before ++ [call])).getLast? = some p ∧ p.next = none
  /-- After the end, each call is at the end again and makes no fetch. -/
  finished : ∀ before call after, calls = before ++ call :: after → call.result = .done →
    ∀ later ∈ after, later.result = .done ∧ later.fetches = []
  /-- A call that fails consumes no item: none was pending, and the pages it fetched have none. -/
  failure : ∀ call ∈ calls, ∀ fault, call.result = .failed fault →
    call.before.pending = [] ∧ call.after.pending = [] ∧ itemsOf (pagesOf call.fetches) = []
  /-- A call fails by a cancellation, by a fetch, or because it met with too many pages. -/
  cause : ∀ call ∈ calls, ∀ fault, call.result = .failed fault →
    (call.cancelled = true ∧ fault = .cancelled call.before.pages.fetched) ∨
      (∃ f, call.fetches.getLast? = some f ∧ f.outcome = .error fault) ∨
      (fault = .abandoned ∧ call.limit < (pagesOf call.fetches).length)
  /-- But for the failures, the results are those of an undisturbed run on the same pages. -/
  undisturbed : ItemCall.settled calls =
    (undisturbedCalls (ItemCall.pages calls) (ItemCall.settled calls).length).map ItemCall.result

/-! ## Calls as searches -/

namespace ItemCursor

/-- A call is a search, and the scene of the next call is the one that it leaves. -/
theorem search_call
    (fetch : Fetch σ κ ι) (limit : Nat) (cancelled : Bool) (c : ItemCursor ι)
    (s : Scene σ κ ι) :
    Search fetch cancelled (limit + 1) c s (c.call fetch limit cancelled s).result
      (c.call fetch limit cancelled s).after
      (c.nextWithin fetch cancelled (limit + 1) s).2.2
      (c.call fetch limit cancelled s).fetches := by
  obtain ⟨result, after, s', new, heq, hsearch, hnoted⟩ :=
    search_nextWithin fetch cancelled (limit + 1) c s
  have hfetches : (c.call fetch limit cancelled s).fetches = new := by
    rw [call, hnoted, List.nil_append]
    rfl
  rw [hfetches, call, heq]
  exact hsearch

/-- The cursor stands where its pages lead, and the items of the pages are given or pending. -/
structure Reached (ps : List (Page κ ι)) (given : List ι) (c : ItemCursor ι) : Prop where
  follows : c.pages.Follows ps
  accounted : given ++ c.pending = itemsOf ps

theorem reached_start : Reached ([] : List (Page κ ι)) [] start :=
  ⟨PageCursor.follows_start, rfl⟩

theorem Search.reached
    {fetch : Fetch σ κ ι} {cancelled : Bool} {fuel : Nat} {c after : ItemCursor ι}
    {s s' : Scene σ κ ι} {result : Advance ι} {new : List (Fetched κ ι)}
    {ps : List (Page κ ι)} {given : List ι}
    (h : Search fetch cancelled fuel c s result after s' new) (hc : Reached ps given c) :
    Reached (ps ++ pagesOf new) (given ++ result.given) after := by
  refine ⟨h.follows hc.follows, ?_⟩
  calc
    given ++ result.given ++ after.pending = given ++ (c.pending ++ itemsOf (pagesOf new)) := by
      rw [h.conserves, List.append_assoc]
    _ = itemsOf (ps ++ pagesOf new) := by
      rw [← List.append_assoc, hc.accounted, itemsOf_append]

/-- After some calls of a run, the rest of it is a run from what they have reached. -/
theorem calls_append
    {fetch : Fetch σ κ ι} {limit : Scene σ κ ι → Nat} {flags : List Bool} {c : ItemCursor ι}
    {s : Scene σ κ ι} {ps : List (Page κ ι)} {given : List ι} (hc : Reached ps given c)
    {before after : List (ItemCall κ ι)} (h : calls fetch limit flags c s = before ++ after) :
    ∃ rest c' t, Reached (ps ++ ItemCall.pages before) (given ++ ItemCall.given before) c' ∧
      after = calls fetch limit rest c' t := by
  induction before generalizing flags c s ps given with
  | nil => exact ⟨flags, c, s, by simpa [ItemCall.pages, ItemCall.given] using hc, h.symm⟩
  | cons first before ih =>
      cases flags with
      | nil => simp [calls] at h
      | cons cancelled rest =>
          rw [calls, List.cons_append, List.cons.injEq] at h
          obtain ⟨rfl, h⟩ := h
          rw [ItemCall.pages_cons, ItemCall.given_cons, ← List.append_assoc, ← List.append_assoc]
          exact ih ((search_call fetch (limit s) cancelled c s).reached hc) h

/-- Each call of a run is a search from what was reached by the calls before it. -/
theorem calls_split
    {fetch : Fetch σ κ ι} {limit : Scene σ κ ι → Nat} {flags : List Bool} {s : Scene σ κ ι}
    {before after : List (ItemCall κ ι)} {call : ItemCall κ ι}
    (h : calls fetch limit flags start s = before ++ call :: after) :
    Reached (ItemCall.pages before) (ItemCall.given before) call.before ∧
      ∃ rest t t', Search fetch call.cancelled (call.limit + 1) call.before t call.result
          call.after t' call.fetches ∧
        call.limit = limit t ∧ after = calls fetch limit rest call.after t' := by
  obtain ⟨rest, c', t, hreached, hrest⟩ := calls_append reached_start h
  cases rest with
  | nil => cases hrest
  | cons cancelled rest =>
      rw [calls, List.cons.injEq] at hrest
      obtain ⟨rfl, rfl⟩ := hrest
      exact ⟨hreached, rest, t, _, search_call fetch (limit t) cancelled c' t, rfl, rfl⟩

theorem search_of_mem_calls
    {fetch : Fetch σ κ ι} {limit : Scene σ κ ι → Nat} {flags : List Bool} {s : Scene σ κ ι}
    {call : ItemCall κ ι} (h : call ∈ calls fetch limit flags start s) :
    ∃ t t', Search fetch call.cancelled (call.limit + 1) call.before t call.result call.after t'
        call.fetches ∧ call.limit = limit t := by
  obtain ⟨before, after, hsplit⟩ := List.append_of_mem h
  obtain ⟨-, rest, t, t', hsearch, hlimit, -⟩ := calls_split hsplit
  exact ⟨t, t', hsearch, hlimit⟩

/-- The calls of a cursor that is at the end are at the end, and make no fetches. -/
theorem calls_of_end
    {fetch : Fetch σ κ ι} {limit : Scene σ κ ι → Nat} {flags : List Bool} {c : ItemCursor ι}
    {s : Scene σ κ ι} (hpending : c.pending = []) (hend : c.pages.isAtEnd = true) :
    ∀ call ∈ calls fetch limit flags c s, call.result = .done ∧ call.fetches = [] := by
  induction flags generalizing c s with
  | nil => exact fun call hcall => absurd hcall List.not_mem_nil
  | cons cancelled rest ih =>
      have hsearch := search_call fetch (limit s) cancelled c s
      have hfirst := hsearch.of_end hpending hend
      rw [hfirst.1] at hsearch
      obtain ⟨hpending', hend'⟩ := hsearch.of_done
      intro call hcall
      rcases List.mem_cons.mp hcall with rfl | hcall
      · exact hfirst
      · exact ih hpending' hend' call hcall

/-! ## Undisturbed runs -/

/-- The results of calls that nothing disturbs: the first items, and the end after all of them. -/
def undisturbedResults (items : List ι) (count : Nat) : List (Advance ι) :=
  (items.take count).map .next ++ List.replicate (count - items.length) .done

theorem undisturbedResults_succ (items : List ι) (count : Nat) :
    undisturbedResults items (count + 1) =
      items.head?.elim .done .next :: undisturbedResults items.tail count := by
  cases items with
  | nil => simp [undisturbedResults, List.replicate_succ]
  | cons item items => simp [undisturbedResults]

theorem undisturbedResults_of_isPrefix {given items : List ι} (h : given <+: items) :
    undisturbedResults items given.length = given.map .next := by
  rw [undisturbedResults, ← List.prefix_iff_eq_take.mp h, Nat.sub_eq_zero_of_le h.length_le]
  exact List.append_nil _

theorem undisturbedResults_length_add (items : List ι) (count : Nat) :
    undisturbedResults items (items.length + count) =
      items.map .next ++ List.replicate count .done := by
  rw [undisturbedResults, List.take_of_length_le (Nat.le_add_right items.length count),
    Nat.add_sub_cancel_left]

/-- A script that has some pages and nothing else, of which the cursor can fetch all. -/
structure Serves (ps : List (Page κ ι)) (c : ItemCursor ι) (s : Scene (Script κ ι) κ ι) :
    Prop where
  outcomes : s.outside.outcomes = ps.map .ok
  linked : Linked (!c.pages.isAtEnd) ps

/-- One call on a script gives the first item that is left, or it is at the end. -/
theorem Serves.nextWithin
    {ps : List (Page κ ι)} {c : ItemCursor ι} {s : Scene (Script κ ι) κ ι} {fuel : Nat}
    (h : Serves ps c s) (hfuel : ps.length < fuel)
    (hclosed : c.pending ++ itemsOf ps = [] → openAfter (!c.pages.isAtEnd) ps = false) :
    ∃ ps' c' s', c.nextWithin Script.fetch false fuel s =
        ((c.pending ++ itemsOf ps).head?.elim .done .next, c', s') ∧
      Serves ps' c' s' ∧ c'.pending ++ itemsOf ps' = (c.pending ++ itemsOf ps).tail ∧
      openAfter (!c'.pages.isAtEnd) ps' = openAfter (!c.pages.isAtEnd) ps := by
  induction fuel generalizing ps c s with
  | zero => exact absurd hfuel (Nat.not_lt_zero _)
  | succ fuel ih =>
      rcases c with ⟨pages, _ | ⟨item, rest⟩⟩
      · cases ps with
        | nil =>
            have hend : pages.isAtEnd = true := by simpa [openAfter] using hclosed rfl
            refine ⟨[], ⟨{ pages with state := .exhausted }, []⟩, s, ?_, ⟨h.outcomes, trivial⟩,
              rfl, ?_⟩
            · rw [ItemCursor.nextWithin, PageCursor.advance, if_pos hend]
              rfl
            · simp [openAfter, hend, PageCursor.isAtEnd_exhausted]
        | cons p ps =>
            obtain ⟨hopen, hlinked⟩ := h.linked
            have hmore := PageCursor.isAtEnd_hasPage p (pages.fetched + 1)
            have hadvance : pages.advance Script.fetch false s =
                (.next p, ⟨.hasPage, p.next, pages.fetched + 1⟩,
                  ⟨s.stream.observe p, ⟨ps.map .ok, s.outside.targets ++ [pages.target]⟩⟩) := by
              rw [PageCursor.advance, if_neg (by simpa using hopen), if_neg Bool.false_ne_true,
                Script.fetch, h.outcomes]
              rfl
            have hserves : Serves ps ⟨⟨.hasPage, p.next, pages.fetched + 1⟩, p.items⟩
                ⟨s.stream.observe p, ⟨ps.map .ok, s.outside.targets ++ [pages.target]⟩⟩ :=
              ⟨rfl, by rwa [hmore, Bool.not_not]⟩
            rw [ItemCursor.nextWithin, hadvance]
            obtain ⟨ps', c', s', hnext, hserves', htail, hopen'⟩ :=
              ih hserves (Nat.lt_of_succ_lt_succ hfuel) (by rw [hmore, Bool.not_not]; exact hclosed)
            exact ⟨ps', c', s', hnext, hserves', htail, by rw [hopen', hmore, Bool.not_not]; rfl⟩
      · exact ⟨ps, ⟨pages, rest⟩, s, rfl, ⟨h.outcomes, h.linked⟩, rfl, rfl⟩

/-- The results of a run on a script, as long as it does not ask for more pages than there are. -/
theorem Serves.calls
    {ps : List (Page κ ι)} {c : ItemCursor ι} {s : Scene (Script κ ι) κ ι} {count : Nat}
    (h : Serves ps c s)
    (hclosed : (c.pending ++ itemsOf ps).length < count →
      openAfter (!c.pages.isAtEnd) ps = false) :
    (calls Script.fetch (fun s => s.outside.outcomes.length) (List.replicate count false) c s).map
      ItemCall.result = undisturbedResults (c.pending ++ itemsOf ps) count := by
  induction count generalizing ps c s with
  | zero => simp [ItemCursor.calls, undisturbedResults]
  | succ count ih =>
      have hfuel : ps.length < s.outside.outcomes.length + 1 := by simp [h.outcomes]
      obtain ⟨ps', c', s', hnext, hserves, htail, hopen⟩ := h.nextWithin hfuel
        fun hnil => hclosed (by rw [hnil]; exact Nat.zero_lt_succ count)
      have hrest := ih hserves fun hlt => by
        rw [htail, List.length_tail] at hlt
        rw [hopen]
        exact hclosed (by omega)
      rw [List.replicate_succ, ItemCursor.calls, List.map_cons, undisturbedResults_succ, ← htail,
        ← hrest, call, hnext]

/-- The results of the undisturbed run on pages that lead from one to the next. -/
theorem results_undisturbedCalls
    {ps : List (Page κ ι)} {count : Nat} (hlinked : Linked true ps)
    (hclosed : (itemsOf ps).length < count → openAfter true ps = false) :
    (undisturbedCalls ps count).map ItemCall.result = undisturbedResults (itemsOf ps) count :=
  Serves.calls ⟨rfl, hlinked⟩ hclosed

end ItemCursor

/-! ## Whole runs -/

/-- The results of calls but for the failures: items, and then the end as often as it was met. -/
theorem ItemCall.settled_eq
    (calls : List (ItemCall κ ι))
    (hfinished : ∀ before call after, calls = before ++ call :: after → call.result = .done →
      ∀ later ∈ after, later.result = .done ∧ later.fetches = []) :
    ∃ count, settled calls = (given calls).map .next ++ List.replicate count .done ∧
      (count ≠ 0 → ∃ before call after, calls = before ++ call :: after ∧ call.result = .done) := by
  induction calls with
  | nil => exact ⟨0, rfl, fun h => absurd rfl h⟩
  | cons first calls ih =>
      rw [settled_cons, given_cons]
      obtain ⟨count, hsettled, hmet⟩ := ih fun before call after h =>
        hfinished (first :: before) call after (by rw [h]; rfl)
      have hlater : count ≠ 0 → ∃ before call after,
          first :: calls = before ++ call :: after ∧ call.result = .done := by
        intro hcount
        obtain ⟨before, call, after, rfl, hdone⟩ := hmet hcount
        exact ⟨first :: before, call, after, rfl, hdone⟩
      cases hresult : first.result with
      | done =>
          obtain ⟨-, hgiven, hall⟩ := of_forall_done (hfinished [] first calls rfl hresult)
          refine ⟨calls.length + 1, ?_, fun _ => ⟨[], first, calls, rfl, hresult⟩⟩
          rw [hall, hgiven]
          rfl
      | next item =>
          refine ⟨count, ?_, hlater⟩
          rw [hsettled]
          rfl
      | failed fault =>
          refine ⟨count, ?_, hlater⟩
          rw [hsettled]
          rfl

namespace ItemCursor

variable {fetch : Fetch σ κ ι} {limit : Scene σ κ ι → Nat} {flags : List Bool} {s : Scene σ κ ι}
  {before after : List (ItemCall κ ι)} {call : ItemCall κ ι}

theorem given_isPrefix_itemsOf (h : calls fetch limit flags start s = before ++ after) :
    ItemCall.given before <+: itemsOf (ItemCall.pages before) := by
  obtain ⟨rest, c', t, hreached, -⟩ := calls_append reached_start h
  exact ⟨c'.pending, hreached.accounted⟩

/-- At the end, all items of the pages have been given and there is no page to fetch. -/
theorem complete_of_done
    (h : calls fetch limit flags start s = before ++ call :: after)
    (hdone : call.result = .done) :
    ItemCall.given before = itemsOf (ItemCall.pages (before ++ [call])) ∧
      openAfter true (ItemCall.pages (before ++ [call])) = false := by
  obtain ⟨hreached, rest, t, t', hsearch, -, -⟩ := calls_split h
  rw [hdone] at hsearch
  obtain ⟨hpending, hend⟩ := hsearch.of_done
  obtain ⟨hfollows, haccounted⟩ := hsearch.reached hreached
  have hpages : ItemCall.pages (before ++ [call]) =
      ItemCall.pages before ++ pagesOf call.fetches := by
    simp [ItemCall.pages]
  rw [hpages, ← haccounted, hpending]
  refine ⟨by simp [Advance.given], ?_⟩
  have hatEnd := hfollows.atEnd
  rw [hend] at hatEnd
  simpa using hatEnd.symm

theorem finished_of_done
    (h : calls fetch limit flags start s = before ++ call :: after)
    (hdone : call.result = .done) :
    ∀ later ∈ after, later.result = .done ∧ later.fetches = [] := by
  obtain ⟨-, rest, t, t', hsearch, -, rfl⟩ := calls_split h
  rw [hdone] at hsearch
  obtain ⟨hpending, hend⟩ := hsearch.of_done
  exact calls_of_end hpending hend

/-- Once the end was met, nothing more is given or fetched. -/
theorem all_of_done
    (h : calls fetch limit flags start s = before ++ call :: after)
    (hdone : call.result = .done) :
    ItemCall.given (calls fetch limit flags start s) = ItemCall.given before ∧
      ItemCall.pages (calls fetch limit flags start s) = ItemCall.pages (before ++ [call]) := by
  obtain ⟨hpages, hgiven, -⟩ := ItemCall.of_forall_done (finished_of_done h hdone)
  rw [h]
  constructor
  · calc
      ItemCall.given (before ++ call :: after) =
          ItemCall.given before ++ (call.result.given ++ ItemCall.given after) := by
        simp [ItemCall.given]
      _ = ItemCall.given before := by
        rw [hdone, hgiven]
        exact List.append_nil _
  · rw [ItemCall.pages_append, ItemCall.pages_append, ItemCall.pages_cons, ItemCall.pages_cons,
      hpages]
    rfl

/-- A run without its failures is an undisturbed run on the pages that it has fetched. -/
theorem settled_calls (fetch : Fetch σ κ ι) (limit : Scene σ κ ι → Nat) (flags : List Bool)
    (s : Scene σ κ ι) :
    ItemCall.settled (calls fetch limit flags start s) =
      (undisturbedCalls (ItemCall.pages (calls fetch limit flags start s))
        (ItemCall.settled (calls fetch limit flags start s)).length).map ItemCall.result := by
  obtain ⟨rest, c', t, hreached, -⟩ :=
    calls_append reached_start (List.append_nil (calls fetch limit flags start s)).symm
  have hlinked : Linked true (ItemCall.pages (calls fetch limit flags start s)) :=
    hreached.follows.linked
  have hinOrder := given_isPrefix_itemsOf (List.append_nil (calls fetch limit flags start s)).symm
  obtain ⟨count, hsettled, hmet⟩ := ItemCall.settled_eq (calls fetch limit flags start s)
    fun before call after h hdone => finished_of_done h hdone
  by_cases hcount : count = 0
  · rw [hcount, List.replicate_zero, List.append_nil] at hsettled
    rw [hsettled, List.length_map, results_undisturbedCalls hlinked fun hless =>
      absurd hinOrder.length_le (Nat.not_le_of_lt hless)]
    exact (undisturbedResults_of_isPrefix hinOrder).symm
  · obtain ⟨before, call, after, h, hdone⟩ := hmet hcount
    obtain ⟨hgiven, hpages⟩ := all_of_done h hdone
    obtain ⟨hall, hclosed⟩ := complete_of_done h hdone
    rw [← hgiven, ← hpages] at hall
    rw [← hpages] at hclosed
    rw [hall] at hsettled
    rw [hsettled, List.length_append, List.length_map, List.length_replicate,
      results_undisturbedCalls hlinked fun _ => hclosed]
    exact (undisturbedResults_length_add _ count).symm

/--
A run gives the items of the pages in order, whatever the fetch and the cancellations are. On a
source, no call meets with more pages than it may.
-/
theorem faithful_calls
    (fetch : Fetch σ κ ι) (limit : Scene σ κ ι → Nat) (flags : List Bool) (s : Scene σ κ ι) :
    FaithfulTraversal (calls fetch limit flags start s) ∧
      ∀ source : PageSource σ κ ι, ∀ call ∈ source.itemCalls flags s,
        (pagesOf call.fetches).length ≤ call.limit := by
  refine ⟨⟨?_, ?_, ?_, ?_, ?_, ?_⟩, ?_⟩
  · exact fun before after h => given_isPrefix_itemsOf h
  · intro before call after h hdone
    obtain ⟨hall, hclosed⟩ := complete_of_done h hdone
    have hne : ItemCall.pages (before ++ [call]) ≠ [] := by
      rintro hnil
      rw [hnil] at hclosed
      cases hclosed
    rw [openAfter_of_ne_nil true hne] at hclosed
    refine ⟨hall, _, List.getLast?_eq_some_getLast hne, ?_⟩
    simpa [Page.hasMore] using hclosed
  · exact fun before call after h hdone => finished_of_done h hdone
  · intro call hcall fault hfailed
    obtain ⟨t, t', hsearch, -⟩ := search_of_mem_calls hcall
    rw [hfailed] at hsearch
    obtain ⟨hbefore, hafter⟩ := hsearch.pending_of_failed
    refine ⟨hbefore, hafter, ?_⟩
    simpa [hbefore, hafter, Advance.given] using hsearch.conserves
  · intro call hcall fault hfailed
    obtain ⟨t, t', hsearch, -⟩ := search_of_mem_calls hcall
    rw [hfailed] at hsearch
    rcases hsearch.cause_of_failed with hcancelled | hfetch | ⟨hfault, hlength⟩
    · exact .inl hcancelled
    · exact .inr (.inl hfetch)
    · exact .inr (.inr ⟨hfault, by rw [hlength]; exact Nat.lt_succ_self call.limit⟩)
  · exact settled_calls fetch limit flags s
  · intro source call hcall
    obtain ⟨t, t', hsearch, hlimit⟩ := search_of_mem_calls hcall
    rw [hlimit]
    exact hsearch.length_pagesOf_le

end ItemCursor

end PagedTables
