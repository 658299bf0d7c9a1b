import PagedTables.Stream.Source

/-!
# Scripts

A source of which every answer is known in advance: each fetch takes the next outcome, whatever
page it asks for, and the targets of the fetches are kept. When the outcomes are used up, nothing
answers any more.
-/
namespace PagedTables

/-- Outcomes to come, and the targets of the fetches so far. -/
structure Script (κ ι : Type) where
  outcomes : List (Except Fault (Page κ ι))
  targets : List (Option Link)

namespace Script

variable {κ ι : Type}

/-- The next outcome. -/
def fetch : Fetch (Script κ ι) κ ι := fun target s =>
  match s.outcomes with
  | [] => (.error .noAnswer, ⟨[], s.targets ++ [target]⟩)
  | outcome :: rest => (outcome, ⟨rest, s.targets ++ [target]⟩)

/-- The source of a script's pages. -/
def source : PageSource (Script κ ι) κ ι where
  fetch := fetch
  supply s := s.outcomes.length
  supply_lt target outside outside' p h := by
    unfold fetch at h
    split at h
    · cases h
    · next outcome rest hs =>
      cases h
      simp [hs]

end Script

end PagedTables
