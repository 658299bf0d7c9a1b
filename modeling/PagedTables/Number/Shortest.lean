import PagedTables.Number.Binary64
import PagedTables.Text.Digits

/-!
# Shortest decimal texts of doubles

A double is written with the fewest significant digits that still read back as it, and among
texts of that length with the digits nearest to it. Magnitudes from 10 ^ -4 up to, but not
including, 10 ^ 16 are written positionally, with at least one digit after the point; the others
as one digit, the remaining digits after a point, and a signed exponent of at least two digits.
-/
namespace PagedTables

namespace Binary64

/-- The whole part of the decimal logarithm of a positive `n / d`. -/
def ratioLog10 (n d : Nat) : Int :=
  if d ≤ n then ((Nat.toDigits 10 (n / d)).length : Int) - 1
  else
    let places : Nat := (Nat.toDigits 10 (d / n)).length
    if d = n * Nat.pow 10 (places - 1) then 1 - (places : Int) else -(places : Int)

/--
The nearest of the multiples of `10 ^ power` around the magnitude of `rank` that read back as it,
as the factor of that power; of two equally near ones the even one.
-/
def decimalNear? (rank : Fin magnitudeCount) (power : Int) : Option Nat :=
  let n := numerator rank * Nat.pow 10 (-power).toNat
  let d := denominator rank * Nat.pow 10 power.toNat
  let readsBack (c : Nat) : Bool := ofDecimal false c power == .finite false rank
  let nearest := roundHalfEven n d
  let other := if nearest * d ≤ n then nearest + 1 else nearest - 1
  if readsBack nearest then some nearest
  else if readsBack other then some other
  else none

/-- The shortest digits of the magnitude of a rank, as a factor and a power of ten. -/
def shortest (rank : Fin magnitudeCount) : Nat × Int :=
  let top := ratioLog10 (numerator rank) (denominator rank)
  let powers := (List.range 17).map fun (places : Nat) => top - places
  (powers.findSome? fun power => (decimalNear? rank power).map (·, power)).getD (0, 0)

/-- The digits without zeros at the end. -/
def significantDigits (coefficient : Nat) : List Char :=
  ((Nat.toDigits 10 coefficient).reverse.dropWhile (· = '0')).reverse

/-- The digits `ds` with the decimal point in front of the place `point`. -/
def positional (ds : List Char) (point : Int) : List Char :=
  if point ≤ 0 then '0' :: '.' :: List.replicate (-point).toNat '0' ++ ds
  else if ds.length ≤ point then
    ds ++ List.replicate (point.toNat - ds.length) '0' ++ ['.', '0']
  else ds.take point.toNat ++ '.' :: ds.drop point.toNat

/-- The digits `ds` with the point after the first one, and an exponent. -/
def scientific (ds : List Char) (power : Int) : List Char :=
  let fraction := ds.drop 1
  ds.take 1 ++ (if fraction.isEmpty then [] else '.' :: fraction) ++
    'e' :: (if power < 0 then '-' else '+') :: Text.paddedIn 10 2 power.natAbs

/-- The text of the magnitude of a rank. -/
def magnitudeChars (rank : Fin magnitudeCount) : List Char :=
  if rank.val = 0 then ['0', '.', '0']
  else
    let (coefficient, power) := shortest rank
    let ds := significantDigits coefficient
    let top := (Nat.toDigits 10 coefficient).length + power - 1
    if -4 ≤ top && top < 16 then positional ds (top + 1) else scientific ds top

/-- The text of a double. -/
def toText : Binary64 → String
  | nan _ => "nan"
  | infinite negative => if negative then "-inf" else "inf"
  | finite negative rank =>
    String.ofList ((if negative then ['-'] else []) ++ magnitudeChars rank)

end Binary64

/-- The digits behind a decimal point, and what follows them. -/
def readFraction : List Char → List Char × List Char
  | '.' :: rest => (rest.takeWhile Char.isDigit, rest.dropWhile Char.isDigit)
  | rest => ([], rest)

/-- The power of ten that an exponent behind digits gives. -/
def readPower? : List Char → Option Int
  | [] => some 0
  | e :: rest =>
    if e ≠ 'e' && e ≠ 'E' then none
    else do
      let (negative, digits) := Text.takeSign rest
      let n ← Text.readNat? digits
      some (if negative then -(n : Int) else n)

/-- The digits before and after a decimal point, and the power of ten of an exponent. -/
def readDecimalParts? (cs : List Char) : Option (List Char × List Char × Int) := do
  let whole := cs.takeWhile Char.isDigit
  let (fraction, rest) := readFraction (cs.dropWhile Char.isDigit)
  if whole.isEmpty && fraction.isEmpty then none
  else
    let power ← readPower? rest
    some (whole, fraction, power)

namespace Binary64

/-- The double that digits, a fraction and an exponent spell. -/
def ofParts (negative : Bool) (whole fraction : List Char) (power : Int) : Binary64 :=
  ofDecimal negative (Nat.ofDigitChars 10 (whole ++ fraction) 0) (power - fraction.length)

/-- The origin of every NaN that a text spells, unless another one is given. -/
def textOrigin : Nat := 0

/--
The double that a text spells: white space, a sign, and digits with an optional point, exponent
and underscores between digits, or one of the names of infinity and NaN in any case.
-/
def ofText? (s : String) : Option Binary64 := do
  let (negative, cs) := Text.takeSign ((Text.trimWhile Text.isWhite s.toList).map Text.asciiDigit)
  let name := String.ofList (cs.map Char.toLower)
  if name = "nan" then some (nan textOrigin)
  else if name = "inf" || name = "infinity" then some (infinite negative)
  else
    let (whole, fraction, power) ← readDecimalParts? (← Text.dropUnderscores? cs)
    some (ofParts negative whole fraction power)

end Binary64

end PagedTables
