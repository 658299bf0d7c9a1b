import Mathlib.Tactic.ByContra
import PagedTables.Proofs.Stream.Trace

/-!
# The link protocol

Runs of one cursor on pages: it is advanced any number of times, and before each time the stream
may be cancelled or not. Nothing is assumed of the fetch; it may give any pages and faults.

The main result says which page each call asks for, when it asks for none, and that a call that
fails changes nothing but the state of the cursor. So a call after a failure asks for the very page
that could not be fetched, and never starts again from the first one.
-/
namespace PagedTables

variable {σ κ ι : Type}

/-- One call in a run of a cursor on pages. -/
structure PageCall (κ ι : Type) where
  cancelled : Bool
  before : PageCursor
  streamBefore : Stream κ ι
  result : Advance (Page κ ι)
  /-- The fetches that the call makes, in order. -/
  fetches : List (Fetched κ ι)
  after : PageCursor
  streamAfter : Stream κ ι

namespace PageCursor

/-- Advances a cursor, and keeps what is seen of it. -/
def call (fetch : Fetch σ κ ι) (cancelled : Bool) (c : PageCursor) (s : Scene σ κ ι) :
    PageCall κ ι where
  cancelled := cancelled
  before := c
  streamBefore := s.stream
  result := (c.advance fetch cancelled s).1
  fetches := (c.advance (noted fetch) cancelled (s.noted [])).2.2.outside.2
  after := (c.advance fetch cancelled s).2.1
  streamAfter := (c.advance fetch cancelled s).2.2.stream

/-- Advances a cursor again and again; each time the stream is cancelled or not. -/
def calls (fetch : Fetch σ κ ι) :
    List Bool → PageCursor → Scene σ κ ι → List (PageCall κ ι)
  | [], _, _ => []
  | cancelled :: rest, c, s =>
    c.call fetch cancelled s ::
      calls fetch rest (c.advance fetch cancelled s).2.1 (c.advance fetch cancelled s).2.2

end PageCursor

/-- The pages that some calls have fetched. -/
def PageCall.pages (calls : List (PageCall κ ι)) : List (Page κ ι) :=
  pagesOf (calls.flatMap PageCall.fetches)

/-- The rules that the calls of a run keep to. -/
structure LinkProtocol (calls : List (PageCall κ ι)) : Prop where
  /-- As long as no page was without a link, a call makes one fetch, but none when cancelled. -/
  needed : ∀ before call after, calls = before ++ call :: after →
    (∀ p ∈ PageCall.pages before, p.next ≠ none) →
    if call.cancelled then
      call.fetches = [] ∧ call.result = .failed (.cancelled (PageCall.pages before).length)
    else ∃ f, call.fetches = [f]
  /-- After a page without a link, no call makes a fetch, and all of them are at the end. -/
  finished : ∀ before call after, calls = before ++ call :: after →
    ∀ p ∈ PageCall.pages before, p.next = none → call.fetches = [] ∧ call.result = .done
  /-- The first page is asked for until there has been a page, and never again. -/
  first : ∀ before call after, calls = before ++ call :: after →
    ∀ f ∈ call.fetches, f.target = none ↔ PageCall.pages before = []
  /-- The link of a page is asked for until there is another page. -/
  following : ∀ before call between later after p,
    calls = before ++ call :: (between ++ later :: after) → call.result = .next p →
    PageCall.pages between = [] → ∀ f ∈ later.fetches, f.target = p.next
  /-- The outcome of a fetch is the result of its call. -/
  outcome : ∀ call ∈ calls, ∀ f ∈ call.fetches,
    call.result = match f.outcome with
      | .ok p => .next p
      | .error fault => .failed fault
  /-- A page is only given when it was fetched. -/
  fetched : ∀ call ∈ calls, ∀ p, call.result = .next p → pagesOf call.fetches = [p]
  /-- A call that fails changes nothing but the state. -/
  failure : ∀ call ∈ calls, ∀ fault, call.result = .failed fault →
    call.after = { call.before with state := .failed } ∧ call.streamAfter = call.streamBefore

namespace PageCursor

/-- A call is a step of the cursor. -/
theorem step_call
    (fetch : Fetch σ κ ι) (cancelled : Bool) (c : PageCursor) (s : Scene σ κ ι) :
    Step fetch cancelled c s (c.call fetch cancelled s).result (c.call fetch cancelled s).after
      (c.advance fetch cancelled s).2.2 (c.call fetch cancelled s).fetches := by
  obtain ⟨result, after, s', new, heq, hstep, hnoted⟩ := step_advance fetch cancelled c s
  have hfetches : (c.call fetch cancelled s).fetches = new := by
    rw [call, hnoted, List.nil_append]
    rfl
  rw [hfetches, call, heq]
  exact hstep

/-- After some calls of a run, the rest of it is a run from where their pages lead. -/
theorem calls_append
    {fetch : Fetch σ κ ι} {flags : List Bool} {c : PageCursor} {s : Scene σ κ ι}
    {ps : List (Page κ ι)} (hc : Follows ps c) {before after : List (PageCall κ ι)}
    (h : calls fetch flags c s = before ++ after) :
    ∃ rest c' t, Follows (ps ++ PageCall.pages before) c' ∧ after = calls fetch rest c' t := by
  induction before generalizing flags c s ps with
  | nil => exact ⟨flags, c, s, by simpa [PageCall.pages] using hc, h.symm⟩
  | cons first before ih =>
      cases flags with
      | nil => simp [calls] at h
      | cons cancelled rest =>
          rw [calls, List.cons_append, List.cons.injEq] at h
          obtain ⟨rfl, h⟩ := h
          obtain ⟨rest, c', t, hfollows, hrest⟩ :=
            ih ((step_call fetch cancelled c s).follows hc) h
          refine ⟨rest, c', t, ?_, hrest⟩
          simpa [PageCall.pages] using hfollows

section Run

variable {fetch : Fetch σ κ ι} {flags : List Bool} {s : Scene σ κ ι}
  {before after : List (PageCall κ ι)} {call : PageCall κ ι}

/-- Each call of a run is a step from where the pages lead that were fetched before it. -/
theorem calls_split (h : calls fetch flags start s = before ++ call :: after) :
    Follows (PageCall.pages before) call.before ∧
      ∃ t t', Step fetch call.cancelled call.before t call.result call.after t' call.fetches ∧
        t.stream = call.streamBefore ∧ t'.stream = call.streamAfter := by
  obtain ⟨rest, c', t, hfollows, hrest⟩ := calls_append follows_start h
  cases rest with
  | nil => cases hrest
  | cons cancelled rest =>
      rw [calls, List.cons.injEq] at hrest
      obtain ⟨rfl, -⟩ := hrest
      exact ⟨hfollows, t, _, step_call fetch cancelled c' t, rfl, rfl⟩

theorem step_of_mem_calls (h : call ∈ calls fetch flags start s) :
    ∃ t t', Step fetch call.cancelled call.before t call.result call.after t' call.fetches ∧
      t.stream = call.streamBefore ∧ t'.stream = call.streamAfter := by
  obtain ⟨before, after, hsplit⟩ := List.append_of_mem h
  exact (calls_split hsplit).2

end Run

/-- The calls of a run keep to the link protocol, whatever the fetch and the cancellations are. -/
theorem linkProtocol_calls (fetch : Fetch σ κ ι) (flags : List Bool) (s : Scene σ κ ι) :
    LinkProtocol (calls fetch flags start s) where
  needed before call after h hlinks := by
    obtain ⟨hfollows, t, t', hstep, -, -⟩ := calls_split h
    rw [← hfollows.fetched]
    exact hstep.of_open (hfollows.isAtEnd_eq_false_iff.mpr hlinks)
  finished before call after h p hp hnext := by
    obtain ⟨hfollows, t, t', hstep, -, -⟩ := calls_split h
    have hend : call.before.isAtEnd ≠ false := by
      rw [Ne, hfollows.isAtEnd_eq_false_iff]
      exact fun hlinks => hlinks p hp hnext
    obtain ⟨hnone, hdone, -⟩ := hstep.of_end (by simpa using hend)
    exact ⟨hnone, hdone⟩
  first before call after h f hf := by
    obtain ⟨hfollows, t, t', hstep, -, -⟩ := calls_split h
    obtain ⟨hopen, htarget⟩ := hstep.target_of_mem hf
    have hlinks := hfollows.isAtEnd_eq_false_iff.mp hopen
    rw [htarget, hfollows.target]
    constructor
    · intro hnone
      by_contra hne
      have hlast := hlinks _ (List.getLast_mem hne)
      rw [List.getLast?_eq_some_getLast hne] at hnone
      exact hlast hnone
    · intro hnil
      rw [hnil]
      rfl
  following before call between later after p h hresult hnone f hf := by
    obtain ⟨-, t, t', hstep, -, -⟩ := calls_split h
    rw [hresult] at hstep
    have hpages := hstep.pagesOf_of_next
    have hsplit : calls fetch flags start s = (before ++ call :: between) ++ later :: after := by
      rw [h]
      simp
    obtain ⟨hfollows, u, u', hlater, -, -⟩ := calls_split hsplit
    have hlast : PageCall.pages (before ++ call :: between) = PageCall.pages before ++ [p] := by
      simp only [PageCall.pages, List.flatMap_append, List.flatMap_cons, pagesOf_append] at hnone ⊢
      rw [hpages, hnone, List.append_nil]
    rw [(hlater.target_of_mem hf).2, hfollows.target, hlast]
    simp
  outcome call hcall f hf := by
    obtain ⟨t, t', hstep, -, -⟩ := step_of_mem_calls hcall
    exact hstep.result_of_mem hf
  fetched call hcall p hresult := by
    obtain ⟨t, t', hstep, -, -⟩ := step_of_mem_calls hcall
    rw [hresult] at hstep
    exact hstep.pagesOf_of_next
  failure call hcall fault hresult := by
    obtain ⟨t, t', hstep, hbefore, hafter⟩ := step_of_mem_calls hcall
    rw [hresult] at hstep
    obtain ⟨hcursor, hstream⟩ := hstep.of_failed
    exact ⟨hcursor, by rw [← hafter, hstream, hbefore]⟩

end PageCursor

end PagedTables
