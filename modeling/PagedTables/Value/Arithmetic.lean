import PagedTables.Value.Equality

/-!
# Arithmetic of values

The operations that times and counts are subject to whatever their type: multiplication by a
positive number, and comparison with an integer. Numbers are multiplied in the arithmetic of their
type; texts, strings of bytes, lists and tuples are repeated. Comparison is exact for numbers of
every type; a double that is not a number stands in no order, and a decimal of that kind signals.

Beside them are the two operations that one value is subject to alone: the opposite of a number or
a duration, and the complement of an integer.
-/
namespace PagedTables

/-- Why an operation has no result. -/
inductive OperationFault where
  | signal (s : DecimalSignal)
  /-- The result is out of the range of its type. -/
  | overflow
  /-- The value is of a type without the operation. -/
  | unsupported
  deriving DecidableEq

namespace NumberKey

/-- How a number compares with an integer. -/
def ordering (k : NumberKey) (n : Int) : Ordering :=
  match k with
  | infinite negative => if negative then .lt else .gt
  | finite negative coefficient power =>
    let places := (Nat.toDigits 10 coefficient).length + power
    if coefficient = 0 then compare 0 n
    else if (Nat.toDigits 10 n.natAbs).length + 1 < places then (if negative then .lt else .gt)
    else if places < 0 then
      if n = 0 then (if negative then .lt else .gt) else compare 0 n
    else
      let magnitude : Int := (coefficient * Nat.pow 10 power.toNat : Nat)
      compare (if negative then -magnitude else magnitude) (n * Int.pow 10 (-power).toNat)

end NumberKey

namespace Duration

/-- The longest duration is a number of days below this one. -/
def dayLimit : Nat := 1000000000

/-- The duration is within the range of durations. -/
def inRange (d : Duration) : Bool :=
  (d.microseconds / 1000000 / daySeconds).natAbs < dayLimit

end Duration

namespace Value

/-- The whole number that a value is as a number. -/
def wholeNumber? : Value → Option Int
  | bool b => some (if b then 1 else 0)
  | v => v.asInt?

/-- How a value compares with an integer; nothing for a double that is not a number. -/
def ordering (v : Value) (n : Int) : Except OperationFault (Option Ordering) :=
  match v.wholeNumber? with
  | some m => .ok (some (compare m n))
  | none =>
    match v, v.numberKey? with
    | _, none => .error .unsupported
    | _, some (some k) => .ok (some (k.ordering n))
    | decimal _, some none => .error (.signal .invalidOperation)
    | _, some none => .ok none

/-- The number of doublings that a double can still be multiplied with. -/
def doublingLimit : Nat := 1024

/-- The list several times in a row. -/
def repeated {α : Type} (times : Nat) (xs : List α) : List α :=
  (List.replicate times xs).flatten

/-- The value multiplied by a power of two. -/
def doubled (v : Value) (times : Nat) : Except OperationFault Value :=
  let factor : Nat := Nat.pow 2 times
  match v.wholeNumber? with
  | some n => .ok (int (n * factor))
  | none =>
    match v with
    | float x => if times < doublingLimit then .ok (float (x.scale times)) else .error .overflow
    | decimal d => (d.times factor).mapError .signal |>.map decimal
    | duration d =>
      let product : Duration := ⟨d.microseconds * factor⟩
      if product.inRange then .ok (duration product) else .error .overflow
    | text s => .ok (text (String.ofList (repeated factor s.toList)))
    | member ⟨_, _, .text s, _, _⟩ => .ok (text (String.ofList (repeated factor s.toList)))
    | bytes bs => .ok (bytes (repeated factor bs))
    | list xs => .ok (list (repeated factor xs))
    | tuple xs => .ok (tuple (repeated factor xs))
    | _ => .error .unsupported

/-- The value with the opposite sign. -/
def opposite (v : Value) : Except OperationFault Value :=
  match v.wholeNumber? with
  | some n => .ok (int (-n))
  | none =>
    match v with
    | float x => .ok (float x.negate)
    | decimal d => d.negate.mapError .signal |>.map decimal
    | duration d =>
      let opposite : Duration := ⟨-d.microseconds⟩
      if opposite.inRange then .ok (duration opposite) else .error .overflow
    | _ => .error .unsupported

/-- The integer whose bits are the other ones in two's complement. -/
def complement (v : Value) : Except OperationFault Value :=
  match v.wholeNumber? with
  | some n => .ok (int (-n - 1))
  | none => .error .unsupported

end Value

end PagedTables
