/-!
# Positions in sequences

Positions and slices of a list. A negative position counts from the end. A slice goes from one
bound up to another in steps of either direction; bounds outside of the list are moved to its ends.
-/
namespace PagedTables.Sequence

variable {α : Type}

/-- The element at a position, counted from the end if the position is negative. -/
def get? (xs : List α) (position : Int) : Option α :=
  let i := if position < 0 then position + xs.length else position
  if i < 0 then none else xs[i.toNat]?

/-- A bound of a slice: counted from the end if negative, and moved into `[low, high]`. -/
def clampBound (size low high : Int) (bound : Int) : Int :=
  let i := if bound < 0 then bound + size else bound
  max low (min high i)

/-- The positions `first`, `first + step`, … on the near side of `stop`. -/
def positions (first stop step : Int) : Nat → List Int
  | 0 => []
  | n + 1 =>
    if (0 < step && first < stop) || (step < 0 && stop < first) then
      first :: positions (first + step) stop step n
    else []

/-- The elements from one bound up to another in steps, which are not zero. -/
def slice? (xs : List α) (start stop step : Option Int) : Option (List α) :=
  let size : Int := xs.length
  let step := step.getD 1
  let (low, high) := if 0 < step then (0, size) else (-1, size - 1)
  let bound (given : Option Int) (default : Int) : Int :=
    (given.map (clampBound size low high)).getD default
  let first := bound start (if 0 < step then low else high)
  let last := bound stop (if 0 < step then high else low)
  if step = 0 then none
  else some ((positions first last step xs.length).filterMap fun i => xs[i.toNat]?)

end PagedTables.Sequence
