import PagedTables.TypeText.Display
import PagedTables.Value.Arithmetic

/-!
# Arithmetic of meanings

The operators of numbers, and what they are for texts, sequences and sets. Integers and the exact
ratios that doubles are give results in full; of the other numbers only the type is known. A
result that would be too long is known by its type, too.
-/
namespace PagedTables.TypeText.Meaning

/-- The integer that a meaning is, a truth value being one. -/
def whole? : Meaning → Option Int
  | value v => v.wholeNumber?
  | _ => none

/-- A number that is no integer. -/
def isFraction (m : Meaning) : Bool :=
  m.typeName == "float" || m.typeName == "complex"

/-- A number of the kinds that are calculated with. -/
def isNumber (m : Meaning) : Bool :=
  m.whole?.isSome || m.isFraction

/-- The number is zero, as far as it is known. -/
def isZero : Meaning → Bool
  | value v => !v.isTruthy
  | _ => false

/-- The exact ratio that a number is, the denominator being positive. -/
def ratio? : Meaning → Option (Int × Nat)
  | value (.float (.finite negative rank)) =>
    let n : Int := Binary64.numerator rank
    some (if negative then -n else n, Binary64.denominator rank)
  | value v => v.wholeNumber?.map fun n => (n, 1)
  | _ => none

/-- The double that is nearest to a ratio with a denominator that is not zero. -/
def ofRatio (n d : Int) : Meaning :=
  value (.float (.ofRatio (n * d < 0) n.natAbs d.natAbs))

/-- The result of a calculation with two numbers that are not both integers, of which more than
the type is known if the numbers and their ratios are. -/
def calculate (exact : Int × Nat → Int × Nat → Int × Int) (left right : Meaning) : Meaning :=
  match left.ratio?, right.ratio? with
  | some x, some y => let (n, d) := exact x y; ofRatio n d
  | _, _ => unknown
    (if left.typeName = "complex" || right.typeName = "complex" then "complex" else "float")

/-- The largest number of places by which an integer is moved to its exact value. -/
def maxShift : Nat := 100000

/-- Sums, and sequences put together. -/
def plus (left right : Meaning) : Found Meaning :=
  match left.whole?, right.whole? with
  | some m, some n => .ok (ofInt (m + n))
  | _, _ =>
    if left.isNumber && right.isNumber then
      .ok (calculate (fun (m, c) (n, d) => (m * d + n * c, c * d)) left right)
    else match left, right with
      | tuple xs, tuple ys => .ok (tuple (xs ++ ys))
      | list xs, list ys => .ok (list (xs ++ ys))
      | value (.bytes xs), value (.bytes ys) => .ok (value (.bytes (xs ++ ys)))
      | left, right => match left.asText?, right.asText? with
        | some s, some t => .ok (ofText (s ++ t))
        | _, _ => unfit

/-- Differences, also of sets. -/
def minus (left right : Meaning) : Found Meaning :=
  match left.whole?, right.whole? with
  | some m, some n => .ok (ofInt (m - n))
  | _, _ =>
    if left.isNumber && right.isNumber then
      .ok (calculate (fun (m, c) (n, d) => (m * d - n * c, c * d)) left right)
    else match left, right with
      | set xs, set ys => .ok (set (xs.filter fun x => !ys.any (same x)))
      | _, _ => unfit

/-- How long a repeated sequence may get before only its type is kept. -/
def maxRepeated : Nat := 1000000

/-- A sequence several times in a row. -/
def repeated? (m : Meaning) (times : Int) : Option Meaning :=
  let times := times.toNat
  let made {α : Type} (xs : List α) (written : List α → Meaning) : Meaning :=
    if maxRepeated < times * xs.length then unknown m.typeName
    else written (Value.repeated times xs)
  match m with
  | tuple xs => some (made xs tuple)
  | list xs => some (made xs list)
  | value (.bytes bs) => some (made bs fun bs => value (.bytes bs))
  | m => m.asText?.map fun s => made s.toList fun cs => ofText (String.ofList cs)

/-- Products, and sequences repeated. -/
def times (left right : Meaning) : Found Meaning :=
  match left.whole?, right.whole? with
  | some m, some n => .ok (ofInt (m * n))
  | whole?, other? =>
    if left.isNumber && right.isNumber then
      .ok (calculate (fun (m, c) (n, d) => (m * n, c * d)) left right)
    else match whole?, other? with
      | _, some n => (left.repeated? n).elim unfit .ok
      | some n, none => (right.repeated? n).elim unfit .ok
      | none, none => unfit

/-- Quotients, which are fractions. -/
def divide (left right : Meaning) : Found Meaning :=
  if !(left.isNumber && right.isNumber) then unfit
  else if right.isZero then .error .zeroDivision
  else .ok (calculate (fun (m, c) (n, d) => (m * d, c * n)) left right)

/-- Quotients and remainders in whole numbers, of which the second function makes a ratio. -/
def divideWhole (ofInts : Int → Int → Int) (ofWhole : Int → Nat → Int × Int)
    (left right : Meaning) : Found Meaning :=
  if !(left.isNumber && right.isNumber) ||
      left.typeName = "complex" || right.typeName = "complex" then unfit
  else if right.isZero then .error .zeroDivision
  else match left.whole?, right.whole? with
    | some m, some n => .ok (ofInt (ofInts m n))
    | _, _ => .ok (calculate (fun (m, c) (n, d) => ofWhole (ofInts (m * d) (n * c)) (c * d))
        left right)

/-- Powers. -/
def power (left right : Meaning) : Found Meaning :=
  match left.whole?, right.whole? with
  | some m, some n =>
    if 0 ≤ n then
      if n * m.natAbs.log2 ≤ maxShift || m.natAbs ≤ 1 then
        .ok (ofInt (if m.natAbs ≤ 1 && n ≠ 0 then (if n % 2 = 0 then m * m else m)
          else Int.pow m n.toNat))
      else .ok (unknown "int")
    else if m = 0 then .error .zeroDivision
    else if -n * m.natAbs.log2 ≤ maxShift then .ok (ofRatio 1 (Int.pow m (-n).toNat))
    else .ok (unknown "float")
  | _, n =>
    if !(left.isNumber && right.isNumber) then unfit
    else if left.isZero && (n.any (· < 0) || right.typeName = "complex") then .error .zeroDivision
    else .ok (unknown
      (if left.typeName = "complex" || right.typeName = "complex" then "complex" else "float"))

/-- Shifts of integers. -/
def shift (toLeft : Bool) (left right : Meaning) : Found Meaning :=
  match left.whole?, right.whole? with
  | some m, some n =>
    if n < 0 then .error (.operand "negative shift count")
    else if !toLeft then .ok (ofInt (if maxShift < n then (if m < 0 then -1 else 0)
      else m / Int.pow 2 n.toNat))
    else if n ≤ maxShift then .ok (ofInt (m * Int.pow 2 n.toNat))
    else .ok (unknown "int")
  | _, _ => unfit

/-- Two truth values, if the meanings are such. -/
def bools? (left right : Meaning) : Option (Bool × Bool) :=
  match left, right with
  | value (.bool a), value (.bool b) => some (a, b)
  | _, _ => none

/-- The bits of an integer in a two's complement of some more places than two integers need. -/
def bitsOf (places : Nat) (n : Int) : Nat :=
  (n % Nat.pow 2 places).toNat

/-- An operator on the bits of two integers. -/
def bitwise (op : Nat → Nat → Nat) (m n : Int) : Int :=
  let places := max m.natAbs.log2 n.natAbs.log2 + 2
  let bits := op (bitsOf places m) (bitsOf places n)
  if bits < Nat.pow 2 (places - 1) then bits else (bits : Int) - Nat.pow 2 places

/-- An operator on the bits of two integers, on truth values, or on sets. -/
def bits (op : Nat → Nat → Nat) (ofBools : Bool → Bool → Bool)
    (ofSets : List Meaning → List Meaning → List Meaning) (left right : Meaning) :
    Found Meaning :=
  match bools? left right, left.whole?, right.whole? with
  | some (a, b), _, _ => .ok (ofBool (ofBools a b))
  | none, some m, some n => .ok (ofInt (bitwise op m n))
  | none, _, _ => match left, right with
    | set xs, set ys => .ok (set (ofSets xs ys))
    | _, _ => unfit

/-- The elements of the first list that are, or are not, in the second. -/
def filtered (isIn : Bool) (xs ys : List Meaning) : List Meaning :=
  xs.filter fun x => ys.any (same x) == isIn

end PagedTables.TypeText.Meaning
