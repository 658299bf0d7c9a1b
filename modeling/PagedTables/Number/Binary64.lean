import PagedTables.Number.Rounding

/-!
# Doubles

The numbers of the binary64 format. A finite double is a sign and a rank: the place of its
magnitude among all finite magnitudes in increasing order. Every finite double has exactly one
rank, neighbours have neighbouring ranks, and the rank is also the bit pattern below the sign.
Ranks below 2 ^ 52 are the subnormal magnitudes. A NaN keeps a number for where it was made, by
which it is known again; its text does not show it.

`ofRatio` rounds a quotient to the nearest double, a half going to the even significand, and
beyond the largest finite magnitude to an infinity.
-/
namespace PagedTables

/-- How many finite magnitudes there are. -/
def magnitudeCount : Nat := 2047 * Nat.pow 2 52

/-- A number of the binary64 format. -/
inductive Binary64 where
  | nan (origin : Nat)
  | infinite (negative : Bool)
  | finite (negative : Bool) (rank : Fin magnitudeCount)
  deriving DecidableEq

namespace Binary64

/-- The whole significand of the magnitude of a rank. -/
def significand (rank : Nat) : Nat :=
  if rank < Nat.pow 2 52 then rank else Nat.pow 2 52 + rank % Nat.pow 2 52

/-- The power of two that the significand of a rank is multiplied with. -/
def exponent (rank : Nat) : Int :=
  if rank < Nat.pow 2 52 then -1074 else (rank / Nat.pow 2 52 : Nat) - 1075

/-- The double of a sign and a rank that may be out of the finite range. -/
def ofRank (negative : Bool) (rank : Nat) : Binary64 :=
  if h : rank < magnitudeCount then .finite negative ⟨rank, h⟩ else .infinite negative

/-- The whole part of the binary logarithm of `n / d`. -/
def ratioLog2 (n d : Nat) : Int :=
  let estimate : Int := (n.log2 : Int) - d.log2
  if n * Nat.pow 2 (-estimate).toNat < d * Nat.pow 2 estimate.toNat then estimate - 1 else estimate

/-- The double nearest to `n / d`, of the given sign. -/
def ofRatio (negative : Bool) (n d : Nat) : Binary64 :=
  if n = 0 then ofRank negative 0
  else
    let unit : Int := max (ratioLog2 n d - 52) (-1074)
    let m := roundHalfEven (n * Nat.pow 2 (-unit).toNat) (d * Nat.pow 2 unit.toNat)
    ofRank negative ((unit + 1074).toNat * Nat.pow 2 52 + m)

/-- Magnitudes from this power of ten on are beyond the range; below its inverse they vanish. -/
def decimalRange : Int := 400

/-- The double nearest to `coefficient * 10 ^ power`. -/
def ofDecimal (negative : Bool) (coefficient : Nat) (power : Int) : Binary64 :=
  let places : Int := (Nat.toDigits 10 coefficient).length + power
  if coefficient = 0 || places < -decimalRange then ofRank negative 0
  else if decimalRange < places then .infinite negative
  else ofRatio negative (coefficient * Nat.pow 10 power.toNat) (Nat.pow 10 (-power).toNat)

/-- The double nearest to an integer. -/
def ofInt (n : Int) : Binary64 :=
  ofRatio (n < 0) n.natAbs 1

/-- The numerator of the magnitude of a rank. -/
def numerator (rank : Nat) : Nat :=
  significand rank * Nat.pow 2 (exponent rank).toNat

/-- The denominator of the magnitude of a rank. -/
def denominator (rank : Nat) : Nat :=
  Nat.pow 2 (-exponent rank).toNat

/-- Neither an infinity nor a NaN. -/
def isFinite : Binary64 → Bool
  | finite .. => true
  | _ => false

/-- Zero of either sign. -/
def isZero : Binary64 → Bool
  | finite _ rank => rank.val == 0
  | _ => false

/-- The double with the opposite sign. -/
def negate : Binary64 → Binary64
  | nan origin => nan origin
  | infinite negative => infinite (!negative)
  | finite negative rank => finite (!negative) rank

/-- The double is below zero. -/
def isNegative : Binary64 → Bool
  | finite negative rank => negative && rank.val != 0
  | infinite negative => negative
  | nan _ => false

/-- The double times a positive number, rounded. -/
def times (x : Binary64) (factor : Nat) : Binary64 :=
  match x with
  | finite negative rank => ofRatio negative (numerator rank * factor) (denominator rank)
  | x => x

/-- The double times a power of two, rounded. -/
def scale (x : Binary64) (power : Nat) : Binary64 :=
  x.times (Nat.pow 2 power)

/-- The double without its fraction. Infinities and NaN have no integer part. -/
def truncate? : Binary64 → Option Int
  | finite negative rank =>
    let n : Int := (numerator rank / denominator rank : Nat)
    some (if negative then -n else n)
  | _ => none

end Binary64

end PagedTables
