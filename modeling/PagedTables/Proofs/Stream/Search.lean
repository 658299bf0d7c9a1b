import PagedTables.Proofs.Stream.Trace

/-!
# Searches for an item

What a cursor on items does when it is advanced: it gives a pending item, or it fetches one page
after the other until one of them has an item. The search may end early, by a failure, by a
cancellation, or because it met with too many pages.

However it ends, nothing is lost. The items that were pending and those of the pages that were
fetched are the item that is given and those that are pending then.
-/
namespace PagedTables

variable {σ κ ι : Type}

/-- The item that an advance gives, if it gives one. -/
def Advance.given {α : Type} : Advance α → List α
  | .next a => [a]
  | .done => []
  | .failed _ => []

/-- The items of some pages, one page after the other. -/
def itemsOf (ps : List (Page κ ι)) : List ι :=
  ps.flatMap Page.items

@[simp] theorem itemsOf_nil : itemsOf ([] : List (Page κ ι)) = [] := rfl

@[simp] theorem itemsOf_cons (p : Page κ ι) (ps : List (Page κ ι)) :
    itemsOf (p :: ps) = p.items ++ itemsOf ps := rfl

@[simp] theorem itemsOf_append (ps qs : List (Page κ ι)) :
    itemsOf (ps ++ qs) = itemsOf ps ++ itemsOf qs :=
  List.flatMap_append

namespace ItemCursor

/-- What a cursor can do when it is advanced, with the fetches that it makes. -/
inductive Search (fetch : Fetch σ κ ι) (cancelled : Bool) :
    Nat → ItemCursor ι → Scene σ κ ι → Advance ι → ItemCursor ι → Scene σ κ ι →
      List (Fetched κ ι) → Prop
  | item {fuel : Nat} {pages : PageCursor} {item : ι} {rest : List ι} {s : Scene σ κ ι} :
      Search fetch cancelled fuel ⟨pages, item :: rest⟩ s (.next item) ⟨pages, rest⟩ s []
  | abandoned {pages : PageCursor} {s : Scene σ κ ι} :
      Search fetch cancelled 0 ⟨pages, []⟩ s (.failed .abandoned) ⟨pages, []⟩ s []
  | page {fuel : Nat} {pages pages' : PageCursor} {s s' s'' : Scene σ κ ι} {p : Page κ ι}
      {result : Advance ι} {after : ItemCursor ι} {first rest : List (Fetched κ ι)}
      (hstep : PageCursor.Step fetch cancelled pages s (.next p) pages' s' first)
      (hrest : Search fetch cancelled fuel ⟨pages', p.items⟩ s' result after s'' rest) :
      Search fetch cancelled (fuel + 1) ⟨pages, []⟩ s result after s'' (first ++ rest)
  | done {fuel : Nat} {pages pages' : PageCursor} {s s' : Scene σ κ ι}
      {new : List (Fetched κ ι)}
      (hstep : PageCursor.Step fetch cancelled pages s .done pages' s' new) :
      Search fetch cancelled (fuel + 1) ⟨pages, []⟩ s .done ⟨pages', []⟩ s' new
  | failed {fuel : Nat} {pages pages' : PageCursor} {s s' : Scene σ κ ι} {fault : Fault}
      {new : List (Fetched κ ι)}
      (hstep : PageCursor.Step fetch cancelled pages s (.failed fault) pages' s' new) :
      Search fetch cancelled (fuel + 1) ⟨pages, []⟩ s (.failed fault) ⟨pages', []⟩ s' new

/-- A cursor makes one of its searches, and the fetches of the search are the noted ones. -/
theorem search_nextWithin
    (fetch : Fetch σ κ ι) (cancelled : Bool) (fuel : Nat) (c : ItemCursor ι)
    (s : Scene σ κ ι) :
    ∃ result after s' new, c.nextWithin fetch cancelled fuel s = (result, after, s') ∧
      Search fetch cancelled fuel c s result after s' new ∧
      ∀ log, c.nextWithin (noted fetch) cancelled fuel (s.noted log) =
        (result, after, s'.noted (log ++ new)) := by
  induction fuel generalizing c s with
  | zero =>
      rcases c with ⟨pages, _ | ⟨item, rest⟩⟩
      · exact ⟨_, _, _, _, rfl, .abandoned, fun log => by rw [List.append_nil]; rfl⟩
      · exact ⟨_, _, _, _, rfl, .item, fun log => by rw [List.append_nil]; rfl⟩
  | succ fuel ih =>
      rcases c with ⟨pages, _ | ⟨item, rest⟩⟩
      · obtain ⟨result, pages', s', first, heq, hstep, hnoted⟩ :=
          PageCursor.step_advance fetch cancelled pages s
        cases result with
        | next p =>
            obtain ⟨result, after, s'', rest, hnext, hsearch, hlog⟩ := ih ⟨pages', p.items⟩ s'
            refine ⟨result, after, s'', first ++ rest, ?_, .page hstep hsearch, fun log => ?_⟩
            · rw [nextWithin, heq]
              exact hnext
            · rw [nextWithin, hnoted, ← List.append_assoc]
              exact hlog (log ++ first)
        | done =>
            refine ⟨.done, ⟨pages', []⟩, s', first, ?_, .done hstep, fun log => ?_⟩
            · rw [nextWithin, heq]
            · rw [nextWithin, hnoted]
        | failed fault =>
            refine ⟨.failed fault, ⟨pages', []⟩, s', first, ?_, .failed hstep, fun log => ?_⟩
            · rw [nextWithin, heq]
            · rw [nextWithin, hnoted]
      · exact ⟨_, _, _, _, rfl, .item, fun log => by rw [List.append_nil]; rfl⟩

namespace Search

variable {fetch : Fetch σ κ ι} {cancelled : Bool} {fuel : Nat} {c after : ItemCursor ι}
  {s s' : Scene σ κ ι} {result : Advance ι} {new : List (Fetched κ ι)}

/-- A search goes where the pages lead that it has fetched. -/
theorem follows {ps : List (Page κ ι)} (h : Search fetch cancelled fuel c s result after s' new)
    (hc : c.pages.Follows ps) : after.pages.Follows (ps ++ pagesOf new) := by
  induction h generalizing ps with
  | item => simpa using hc
  | abandoned => simpa using hc
  | page hstep _ ih =>
      rw [pagesOf_append, ← List.append_assoc]
      exact ih (hstep.follows hc)
  | done hstep => exact hstep.follows hc
  | failed hstep => exact hstep.follows hc

/-- A search loses no item, and makes none up. -/
theorem conserves (h : Search fetch cancelled fuel c s result after s' new) :
    c.pending ++ itemsOf (pagesOf new) = result.given ++ after.pending := by
  induction h with
  | item => simp [Advance.given]
  | abandoned => rfl
  | page hstep _ ih => simpa [hstep.pagesOf_of_next] using ih
  | done hstep =>
      cases hstep
      rfl
  | failed hstep => cases hstep <;> rfl

/-- A search that comes to the end leaves nothing, neither an item nor a page. -/
theorem of_done (h : Search fetch cancelled fuel c s .done after s' new) :
    after.pending = [] ∧ after.pages.isAtEnd = true := by
  generalize hresult : Advance.done = result at h
  induction h with
  | item => cases hresult
  | abandoned => cases hresult
  | page _ _ ih => exact ih hresult
  | done hstep =>
      cases hstep
      exact ⟨rfl, rfl⟩
  | failed => cases hresult

/-- A search that fails leaves no item where it began and where it ends. -/
theorem pending_of_failed {fault : Fault}
    (h : Search fetch cancelled fuel c s (.failed fault) after s' new) :
    c.pending = [] ∧ after.pending = [] := by
  generalize hresult : Advance.failed fault = result at h
  induction h with
  | item => cases hresult
  | abandoned => exact ⟨rfl, rfl⟩
  | page _ _ ih => exact ⟨rfl, (ih hresult).2⟩
  | done => cases hresult
  | failed => exact ⟨rfl, rfl⟩

/--
Why a search can fail: the stream is cancelled, the last fetch failed, or no more pages may be met
with.
-/
theorem cause_of_failed {fault : Fault}
    (h : Search fetch cancelled fuel c s (.failed fault) after s' new) :
    (cancelled = true ∧ fault = .cancelled c.pages.fetched) ∨
      (∃ f, new.getLast? = some f ∧ f.outcome = .error fault) ∨
      (fault = .abandoned ∧ (pagesOf new).length = fuel) := by
  generalize hresult : Advance.failed fault = result at h
  induction h with
  | item => cases hresult
  | abandoned =>
      cases hresult
      exact .inr (.inr ⟨rfl, rfl⟩)
  | page hstep _ ih =>
      cases hstep with
      | page _ hclear =>
          rcases ih hresult with ⟨hcancelled, -⟩ | ⟨f, hlast, herror⟩ | ⟨hfault, hlength⟩
          · simp [hclear] at hcancelled
          · exact .inr (.inl ⟨f, by rw [List.getLast?_append, hlast]; rfl, herror⟩)
          · refine .inr (.inr ⟨hfault, ?_⟩)
            rw [pagesOf_append, pagesOf_page, List.length_append, hlength]
            exact Nat.add_comm 1 _
  | done => cases hresult
  | failed hstep =>
      cases hresult
      cases hstep with
      | cancelled _ hcancelled => exact .inl ⟨hcancelled, rfl⟩
      | error => exact .inr (.inl ⟨_, rfl, rfl⟩)

/-- At the end, a search makes no fetch and stays there. -/
theorem of_end (h : Search fetch cancelled (fuel + 1) c s result after s' new)
    (hpending : c.pending = []) (hend : c.pages.isAtEnd = true) :
    result = .done ∧ new = [] := by
  cases h with
  | item => cases hpending
  | page hstep =>
      obtain ⟨-, hresult, -⟩ := hstep.of_end hend
      cases hresult
  | done hstep => exact ⟨rfl, (hstep.of_end hend).1⟩
  | failed hstep =>
      obtain ⟨-, hresult, -⟩ := hstep.of_end hend
      cases hresult

/-- A search fetches no more pages from a source than its supply has. -/
theorem length_pagesOf_le {source : PageSource σ κ ι}
    (h : Search source.fetch cancelled fuel c s result after s' new) :
    (pagesOf new).length ≤ source.supply s.outside := by
  induction h with
  | item => exact Nat.zero_le _
  | abandoned => exact Nat.zero_le _
  | page hstep _ ih =>
      cases hstep with
      | page _ _ hfetch =>
          have hless := source.supply_lt _ _ _ _ hfetch
          rw [pagesOf_append, pagesOf_page, List.length_append, List.length_singleton]
          dsimp only at ih
          omega
  | done hstep =>
      cases hstep
      exact Nat.zero_le _
  | failed hstep => cases hstep <;> exact Nat.zero_le _

end Search

end ItemCursor

/-! ## What every fetch keeps -/

section Kept

variable {R : σ → σ → Prop} (hrefl : ∀ o, R o o)
  (htrans : ∀ {o o' o''}, R o o' → R o' o'' → R o o'')
  {fetch : Fetch σ κ ι} (hfetch : ∀ target o, R o (fetch target o).2)

include hrefl hfetch

theorem PageCursor.kept_advance (cancelled : Bool) (c : PageCursor) (s : Scene σ κ ι) :
    R s.outside (c.advance fetch cancelled s).2.2.outside := by
  obtain ⟨result, after, s', new, hadvance, hstep, -⟩ := c.step_advance fetch cancelled s
  have hanswer := hfetch c.target s.outside
  rw [hadvance]
  cases hstep with
  | done => exact hrefl _
  | cancelled => exact hrefl _
  | page _ _ hpage => rwa [hpage] at hanswer
  | error _ _ herror => rwa [herror] at hanswer

include htrans

/-- What every fetch keeps is kept by searches, however many pages they meet with. -/
theorem ItemCursor.kept_nextWithin
    (cancelled : Bool) (fuel : Nat) (c : ItemCursor ι) (s : Scene σ κ ι) :
    R s.outside (c.nextWithin fetch cancelled fuel s).2.2.outside := by
  induction fuel generalizing c s with
  | zero => rcases c with ⟨pages, _ | ⟨item, rest⟩⟩ <;> exact hrefl _
  | succ fuel ih =>
      rcases c with ⟨pages, _ | ⟨item, rest⟩⟩
      · have hstep := pages.kept_advance hrefl hfetch cancelled s
        rw [nextWithin]
        rcases hadvance : pages.advance fetch cancelled s with ⟨_ | _ | _, after, s'⟩
        · rw [hadvance] at hstep
          exact htrans hstep (ih _ s')
        · rwa [hadvance] at hstep
        · rwa [hadvance] at hstep
      · exact hrefl _

/-- What every fetch keeps is kept when all pages are taken in. -/
theorem PageSource.kept_foldWithin
    {β : Type} (cancelled : Bool) (take : β → Page κ ι → Except Fault β) (fuel : Nat) (acc : β)
    (c : PageCursor) (s : Scene σ κ ι) :
    R s.outside (foldWithin fetch cancelled take fuel acc c s).2.outside := by
  induction fuel generalizing acc c s with
  | zero => exact hrefl _
  | succ fuel ih =>
      have hstep := c.kept_advance hrefl hfetch cancelled s
      rw [foldWithin]
      rcases hadvance : c.advance fetch cancelled s with ⟨p | _ | _, after, s'⟩
      · rw [hadvance] at hstep
        dsimp only
        cases take acc p with
        | ok acc => exact htrans hstep (ih acc after s')
        | error fault => exact hstep
      · rwa [hadvance] at hstep
      · rwa [hadvance] at hstep

end Kept

end PagedTables
