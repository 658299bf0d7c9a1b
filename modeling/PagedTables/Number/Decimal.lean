import PagedTables.Number.Shortest

/-!
# Decimals

Decimal floating-point numbers of any size: a sign, a coefficient and a power of ten, so that
`1.50` and `1.5` are different numbers of the same value; infinities; and NaNs, quiet or
signalling, with a payload.

Texts are exact in both directions. Negation and multiplication are arithmetic operations and
round to the working precision of 28 digits, a half going to the even neighbour; they signal on a
signalling NaN and on a result beyond the largest exponent. A negated zero has a plus sign. A NaN
keeps a number for where it was made, by which it is known again.
-/
namespace PagedTables

/-- A decimal floating-point number. -/
inductive Decimal where
  | finite (negative : Bool) (coefficient : Nat) (exponent : Int)
  | infinite (negative : Bool)
  | nan (negative signaling : Bool) (payload origin : Nat)
  deriving DecidableEq

/-- What an arithmetic operation on decimals may signal in place of a result. -/
inductive DecimalSignal where
  | invalidOperation
  | overflow
  deriving DecidableEq

namespace Decimal

/-- The sign as a text. -/
def signText (negative : Bool) : String :=
  if negative then "-" else ""

/--
The text of a finite magnitude. It is positional when the exponent is not positive and the
leading digit is at most six places behind the point, and scientific otherwise.
-/
def magnitudeText (coefficient : Nat) (exponent : Int) : String :=
  let ds := Nat.toDigits 10 coefficient
  let left : Int := ds.length + exponent
  let point := if exponent ≤ 0 && -6 < left then left else 1
  let whole := if point ≤ 0 then ['0'] else ds.take point.toNat
  let fraction :=
    if point ≤ 0 then List.replicate (-point).toNat '0' ++ ds else ds.drop point.toNat
  let power := left - point
  String.ofList (whole ++ (if fraction.isEmpty then [] else '.' :: fraction)) ++
    (if power = 0 then "" else
      "E" ++ (if power < 0 then "-" else "+") ++ power.natAbs.repr)

/-- The text of a decimal. -/
def toText : Decimal → String
  | finite negative coefficient exponent =>
    signText negative ++ magnitudeText coefficient exponent
  | infinite negative => signText negative ++ "Infinity"
  | nan negative signaling payload _ =>
    signText negative ++ (if signaling then "sNaN" else "NaN") ++
      (if payload = 0 then "" else payload.repr)

/-- Neither an infinity nor a NaN. -/
def isFinite : Decimal → Bool
  | finite .. => true
  | _ => false

/-- Digits of the working precision. -/
def precision : Nat := 28

/-- The largest exponent of a leading digit. -/
def maxExponent : Int := 999999

/-- The exponent of the last digit of the smallest numbers. -/
def minExponent : Int := -1000026

/-- A finite number in the working precision. -/
def round (negative : Bool) (coefficient : Nat) (exponent : Int) : Except DecimalSignal Decimal :=
  if coefficient = 0 then
    .ok (finite negative 0 (min (max exponent minExponent) maxExponent))
  else
    let places := (Nat.toDigits 10 coefficient).length
    let unit := max (places + exponent - precision) minExponent
    let (coefficient, exponent) :=
      if exponent < unit then
        let rounded :=
          roundHalfEven coefficient (Nat.pow 10 (min (unit - exponent).toNat (places + 1)))
        if rounded = Nat.pow 10 precision then (Nat.pow 10 (precision - 1), unit + 1)
        else (rounded, unit)
      else (coefficient, exponent)
    if maxExponent < (Nat.toDigits 10 coefficient).length + exponent - 1 then .error .overflow
    else .ok (finite negative coefficient exponent)

/-- The negated number. -/
def negate : Decimal → Except DecimalSignal Decimal
  | finite negative coefficient exponent =>
    round (!negative && coefficient ≠ 0) coefficient exponent
  | infinite negative => .ok (infinite (!negative))
  | nan _ true _ _ => .error .invalidOperation
  | nan negative false payload origin =>
    .ok (nan negative false (payload % Nat.pow 10 precision) origin)

/-- The number a positive number of times. -/
def times (d : Decimal) (factor : Nat) : Except DecimalSignal Decimal :=
  match d with
  | finite negative coefficient exponent => round negative (coefficient * factor) exponent
  | infinite negative => .ok (infinite negative)
  | nan _ true _ _ => .error .invalidOperation
  | nan negative false payload origin =>
    .ok (nan negative false (payload % Nat.pow 10 precision) origin)

/-- The number without its fraction; infinities and NaNs have no integer part. -/
def truncate? : Decimal → Option Int
  | finite negative coefficient exponent =>
    let places := (Nat.toDigits 10 coefficient).length
    let n := coefficient * Nat.pow 10 exponent.toNat / Nat.pow 10 (min (-exponent).toNat places)
    some (if negative then -(n : Int) else n)
  | _ => none

/--
The number that a text spells: blanks, a sign, and digits with an optional point and exponent, or
one of the names of infinity and NaN in any case, a NaN with a payload of digits. Underscores are
ignored anywhere.
-/
def ofText? (s : String) : Option Decimal := do
  let cs := (Text.trimWhile Text.isBlank s.toList).map Text.asciiDigit
  let (negative, cs) := Text.takeSign (cs.filter (· ≠ '_'))
  let letters := String.ofList ((cs.takeWhile (!·.isDigit)).map Char.toLower)
  let payload := cs.dropWhile (!·.isDigit)
  if letters = "nan" || letters = "snan" then
    if payload.all Char.isDigit then
      some (nan negative (letters = "snan") (Nat.ofDigitChars 10 payload 0)
        Binary64.textOrigin)
    else none
  else if (letters = "inf" || letters = "infinity") && payload.isEmpty then
    some (infinite negative)
  else
    let (whole, fraction, power) ← readDecimalParts? cs
    some (finite negative (Nat.ofDigitChars 10 (whole ++ fraction) 0) (power - fraction.length))

end Decimal

end PagedTables
