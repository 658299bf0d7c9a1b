import PagedTables.Stream.Script

/-!
# Traces of cursors

What a cursor on pages does in one step, together with the fetches that it makes. The fetches are
noted down by the fetch itself, which changes nothing about the cursor that uses it.

The pages that were fetched so far determine the whole state of a cursor apart from whether its
last step failed: which page it asks for next, how many it has fetched, and whether it is at the
end. This is the invariant behind everything that is said about runs.
-/
namespace PagedTables

variable {σ κ ι : Type}

/-- A fetch that was made, with its target and its outcome. -/
structure Fetched (κ ι : Type) where
  target : Option Link
  outcome : Except Fault (Page κ ι)

/-- The pages among the outcomes of fetches. -/
def pagesOf (log : List (Fetched κ ι)) : List (Page κ ι) :=
  log.filterMap fun f => f.outcome.toOption

/-- The fetch that notes down what it is asked for and what it answers. -/
def noted (fetch : Fetch σ κ ι) : Fetch (σ × List (Fetched κ ι)) κ ι := fun target outside =>
  let answer := fetch target outside.1
  (answer.1, (answer.2, outside.2 ++ [⟨target, answer.1⟩]))

/-- The scene with a log of fetches beside its outside. -/
def Scene.noted (s : Scene σ κ ι) (log : List (Fetched κ ι)) :
    Scene (σ × List (Fetched κ ι)) κ ι :=
  ⟨s.stream, (s.outside, log)⟩

@[simp] theorem pagesOf_nil : pagesOf ([] : List (Fetched κ ι)) = [] := rfl

@[simp] theorem pagesOf_append (log others : List (Fetched κ ι)) :
    pagesOf (log ++ others) = pagesOf log ++ pagesOf others :=
  List.filterMap_append

@[simp] theorem pagesOf_page (target : Option Link) (p : Page κ ι) :
    pagesOf [⟨target, .ok p⟩] = [p] := rfl

@[simp] theorem pagesOf_error (target : Option Link) (fault : Fault) :
    pagesOf [(⟨target, .error fault⟩ : Fetched κ ι)] = [] := rfl

/-! ## Steps -/

namespace PageCursor

/-- What one step of a cursor can do, with the fetches that it makes. -/
inductive Step (fetch : Fetch σ κ ι) (cancelled : Bool) (c : PageCursor) (s : Scene σ κ ι) :
    Advance (Page κ ι) → PageCursor → Scene σ κ ι → List (Fetched κ ι) → Prop
  | done (hend : c.isAtEnd = true) :
      Step fetch cancelled c s .done { c with state := .exhausted } s []
  | cancelled (hend : c.isAtEnd = false) (hcancelled : cancelled = true) :
      Step fetch cancelled c s (.failed (.cancelled c.fetched)) { c with state := .failed } s []
  | page {p : Page κ ι} {outside : σ} (hend : c.isAtEnd = false) (hcancelled : cancelled = false)
      (hfetch : fetch c.target s.outside = (.ok p, outside)) :
      Step fetch cancelled c s (.next p) ⟨.hasPage, p.next, c.fetched + 1⟩
        ⟨s.stream.observe p, outside⟩ [⟨c.target, .ok p⟩]
  | error {fault : Fault} {outside : σ} (hend : c.isAtEnd = false)
      (hcancelled : cancelled = false)
      (hfetch : fetch c.target s.outside = (.error fault, outside)) :
      Step fetch cancelled c s (.failed fault) { c with state := .failed }
        { s with outside := outside } [⟨c.target, .error fault⟩]

/-- A cursor does one of its steps, and the fetches of the step are the ones that are noted. -/
theorem step_advance
    (fetch : Fetch σ κ ι) (cancelled : Bool) (c : PageCursor) (s : Scene σ κ ι) :
    ∃ result after s' new, c.advance fetch cancelled s = (result, after, s') ∧
      Step fetch cancelled c s result after s' new ∧
      ∀ log, c.advance (noted fetch) cancelled (s.noted log) =
        (result, after, s'.noted (log ++ new)) := by
  by_cases hend : c.isAtEnd = true
  · refine ⟨_, _, _, _, ?_, .done hend, fun log => ?_⟩
    · rw [advance, if_pos hend]
    · rw [advance, if_pos hend, List.append_nil]
  · have hopen : c.isAtEnd = false := by simpa using hend
    by_cases hcancelled : cancelled = true
    · refine ⟨_, _, _, _, ?_, .cancelled hopen hcancelled, fun log => ?_⟩
      · rw [advance, if_neg hend, if_pos hcancelled]
      · rw [advance, if_neg hend, if_pos hcancelled, List.append_nil]
    · have hclear : cancelled = false := by simpa using hcancelled
      rcases hfetch : fetch c.target s.outside with ⟨fault | p, outside⟩
      · refine ⟨_, _, _, _, ?_, .error hopen hclear hfetch, fun log => ?_⟩
        · rw [advance, if_neg hend, if_neg hcancelled, hfetch]
        · rw [advance, if_neg hend, if_neg hcancelled]
          simp [noted, Scene.noted, hfetch]
      · refine ⟨_, _, _, _, ?_, .page hopen hclear hfetch, fun log => ?_⟩
        · rw [advance, if_neg hend, if_neg hcancelled, hfetch]
        · rw [advance, if_neg hend, if_neg hcancelled]
          simp [noted, Scene.noted, hfetch]

section Step

variable {fetch : Fetch σ κ ι} {cancelled : Bool} {c after : PageCursor} {s s' : Scene σ κ ι}
  {result : Advance (Page κ ι)} {new : List (Fetched κ ι)}

/-- In front of a page, a step makes one fetch, but none when the stream is cancelled. -/
theorem Step.of_open (h : Step fetch cancelled c s result after s' new)
    (hopen : c.isAtEnd = false) :
    if cancelled then new = [] ∧ result = .failed (.cancelled c.fetched)
    else ∃ f, new = [f] := by
  cases h with
  | done hend => simp [hopen] at hend
  | cancelled _ hcancelled => simp [hcancelled]
  | page _ hcancelled => simp [hcancelled]
  | error _ hcancelled => simp [hcancelled]

/-- At the end, a step makes no fetch and stays there. -/
theorem Step.of_end (h : Step fetch cancelled c s result after s' new)
    (hend : c.isAtEnd = true) : new = [] ∧ result = .done ∧ after.isAtEnd = true := by
  cases h with
  | done => exact ⟨rfl, rfl, rfl⟩
  | cancelled hopen => simp [hend] at hopen
  | page hopen => simp [hend] at hopen
  | error hopen => simp [hend] at hopen

/-- A fetch is made in front of a page, and asks for the page that the cursor keeps in mind. -/
theorem Step.target_of_mem (h : Step fetch cancelled c s result after s' new)
    {f : Fetched κ ι} (hf : f ∈ new) : c.isAtEnd = false ∧ f.target = c.target := by
  cases h with
  | done => cases hf
  | cancelled => cases hf
  | page hopen =>
      rw [List.mem_singleton.mp hf]
      exact ⟨hopen, rfl⟩
  | error hopen =>
      rw [List.mem_singleton.mp hf]
      exact ⟨hopen, rfl⟩

theorem Step.result_of_mem (h : Step fetch cancelled c s result after s' new)
    {f : Fetched κ ι} (hf : f ∈ new) :
    result = match f.outcome with
      | .ok p => .next p
      | .error fault => .failed fault := by
  cases h with
  | done => cases hf
  | cancelled => cases hf
  | page => rw [List.mem_singleton.mp hf]
  | error => rw [List.mem_singleton.mp hf]

theorem Step.pagesOf_of_next
    {p : Page κ ι} (h : Step fetch cancelled c s (.next p) after s' new) : pagesOf new = [p] := by
  cases h
  rfl

/-- A step that fails changes nothing but the state of the cursor. -/
theorem Step.of_failed
    {fault : Fault} (h : Step fetch cancelled c s (.failed fault) after s' new) :
    after = { c with state := .failed } ∧ s'.stream = s.stream := by
  cases h with
  | cancelled => exact ⟨rfl, rfl⟩
  | error => exact ⟨rfl, rfl⟩

end Step

end PageCursor

/-! ## Where pages lead -/

/-- Whether there is a page to fetch after some pages, if there was one before them. -/
def openAfter (isOpen : Bool) : List (Page κ ι) → Bool
  | [] => isOpen
  | p :: rest => openAfter p.hasMore rest

/-- Each of the pages is fetched while there is a page to fetch. -/
def Linked (isOpen : Bool) : List (Page κ ι) → Prop
  | [] => True
  | p :: rest => isOpen = true ∧ Linked p.hasMore rest

theorem openAfter_append (isOpen : Bool) (ps qs : List (Page κ ι)) :
    openAfter isOpen (ps ++ qs) = openAfter (openAfter isOpen ps) qs := by
  induction ps generalizing isOpen with
  | nil => rfl
  | cons p ps ih => exact ih p.hasMore

theorem linked_append (isOpen : Bool) (ps qs : List (Page κ ι)) :
    Linked isOpen (ps ++ qs) ↔ Linked isOpen ps ∧ Linked (openAfter isOpen ps) qs := by
  induction ps generalizing isOpen with
  | nil => simp [Linked, openAfter]
  | cons p ps ih => simp [Linked, openAfter, ih, and_assoc]

theorem openAfter_of_ne_nil
    (isOpen : Bool) {ps : List (Page κ ι)} (hne : ps ≠ []) :
    openAfter isOpen ps = (ps.getLast hne).hasMore := by
  induction ps generalizing isOpen with
  | nil => exact absurd rfl hne
  | cons p ps ih =>
      cases ps with
      | nil => rfl
      | cons q qs => exact ih p.hasMore (List.cons_ne_nil q qs)

theorem Page.hasMore_iff {p : Page κ ι} : p.hasMore = true ↔ p.next ≠ none := by
  rw [hasMore, Option.isSome_iff_ne_none]

/-- There is a page to fetch as long as each page before had a link. -/
theorem openAfter_eq_true_iff
    {isOpen : Bool} {ps : List (Page κ ι)} (h : Linked isOpen ps) :
    openAfter isOpen ps = true ↔ isOpen = true ∧ ∀ p ∈ ps, p.next ≠ none := by
  induction ps generalizing isOpen with
  | nil => simp [openAfter]
  | cons p ps ih =>
      obtain ⟨hopen, hrest⟩ := h
      rw [openAfter, ih hrest, Page.hasMore_iff]
      simp [hopen]

/-- The cursor stands where the pages lead that it has fetched. -/
structure PageCursor.Follows (ps : List (Page κ ι)) (c : PageCursor) : Prop where
  linked : Linked true ps
  fetched : c.fetched = ps.length
  target : c.target = ps.getLast?.bind Page.next
  atEnd : c.isAtEnd = !openAfter true ps

namespace PageCursor

theorem follows_start : Follows ([] : List (Page κ ι)) start :=
  ⟨trivial, rfl, rfl, rfl⟩

/-- A cursor is in front of a page as long as all pages so far had a link. -/
theorem Follows.isAtEnd_eq_false_iff
    {ps : List (Page κ ι)} {c : PageCursor} (h : Follows ps c) :
    c.isAtEnd = false ↔ ∀ p ∈ ps, p.next ≠ none := by
  rw [h.atEnd, Bool.not_eq_false', openAfter_eq_true_iff h.linked]
  exact and_iff_right rfl

theorem isAtEnd_failed {c : PageCursor} :
    ({ c with state := .failed } : PageCursor).isAtEnd = false := rfl

theorem isAtEnd_exhausted {c : PageCursor} :
    ({ c with state := .exhausted } : PageCursor).isAtEnd = true := rfl

theorem isAtEnd_hasPage (p : Page κ ι) (count : Nat) :
    (⟨.hasPage, p.next, count⟩ : PageCursor).isAtEnd = !p.hasMore := by
  cases hnext : p.next <;> simp [isAtEnd, Page.hasMore, hnext]

/-- A step goes where the pages lead that it has fetched. -/
theorem Step.follows
    {fetch : Fetch σ κ ι} {cancelled : Bool} {c after : PageCursor} {s s' : Scene σ κ ι}
    {result : Advance (Page κ ι)} {new : List (Fetched κ ι)} {ps : List (Page κ ι)}
    (h : Step fetch cancelled c s result after s' new) (hc : Follows ps c) :
    Follows (ps ++ pagesOf new) after := by
  cases h with
  | done hend =>
      rw [pagesOf_nil, List.append_nil]
      exact ⟨hc.linked, hc.fetched, hc.target, by rw [isAtEnd_exhausted, ← hc.atEnd, hend]⟩
  | cancelled hend hcancelled =>
      rw [pagesOf_nil, List.append_nil]
      exact ⟨hc.linked, hc.fetched, hc.target, by rw [isAtEnd_failed, ← hc.atEnd, hend]⟩
  | @page p outside hend hcancelled hfetch =>
      have hopen : openAfter true ps = true := by simpa [hend] using hc.atEnd
      refine ⟨?_, ?_, ?_, ?_⟩
      · simp [linked_append, hc.linked, Linked, hopen]
      · simp [hc.fetched]
      · simp
      · rw [pagesOf_page, openAfter_append, isAtEnd_hasPage]
        rfl
  | error hend hcancelled hfetch =>
      rw [pagesOf_error, List.append_nil]
      exact ⟨hc.linked, hc.fetched, hc.target, by rw [isAtEnd_failed, ← hc.atEnd, hend]⟩

end PageCursor

end PagedTables
