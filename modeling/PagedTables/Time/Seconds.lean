import PagedTables.Number.Binary64
import PagedTables.Time.Clock

/-!
# Durations in seconds

A duration as a number of seconds: an integer if it is one, and else the nearest double. A double
is read to the nearest microsecond, a half going to the even one.
-/
namespace PagedTables.Duration

/-- An integer where a duration is meant counts seconds. -/
instance : Coe Int Duration :=
  ⟨ofSeconds⟩

/-- A duration where an integer is meant is its whole seconds. -/
instance : Coe Duration Int :=
  ⟨wholeSeconds⟩

/-- The duration nearest to a number of seconds. -/
def ofDouble : Binary64 → Duration
  | .finite negative rank =>
    let n : Int := roundHalfEven (Binary64.numerator rank * perSecond) (Binary64.denominator rank)
    ⟨if negative then -n else n⟩
  | _ => ⟨0⟩

/-- The number of seconds if it is whole. -/
def seconds? (d : Duration) : Option Int :=
  if d.microseconds % perSecond = 0 then some (d.microseconds / perSecond) else none

/-- The double nearest to the number of seconds. -/
def toDouble (d : Duration) : Binary64 :=
  .ofDecimal (d.microseconds < 0) d.microseconds.natAbs (-6)

end PagedTables.Duration
