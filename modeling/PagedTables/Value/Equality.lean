import PagedTables.Value.Basic

/-!
# Equality of values

When two values are equal, across their types: numbers of every type compare by the number they
denote, with a truth value as 0 or 1; texts, and members that are texts, by their characters;
points in time by the instant; lists with lists and tuples with tuples element by element;
dictionaries by their entries in any order.

A value is always equal to itself. So a NaN equals the very same NaN, which its origin tells, and
no other number; and a signalling NaN signals when it is compared with any other number. The
comparison goes from left to right and stops at the first difference, behind which nothing
signals.
-/
namespace PagedTables

/--
The number that a value denotes, in a form that is the same for equal numbers: a finite number is
a signed coefficient without zeros at its end and a power of ten.
-/
inductive NumberKey where
  | finite (negative : Bool) (coefficient : Nat) (power : Int)
  | infinite (negative : Bool)
  deriving DecidableEq

namespace NumberKey

/-- Moves the zeros at the end of a coefficient into the power of ten. -/
def reduce (coefficient : Nat) (power : Int) : Nat × Int :=
  if coefficient ≠ 0 ∧ coefficient % 10 = 0 then reduce (coefficient / 10) (power + 1)
  else (coefficient, power)
  termination_by coefficient
  decreasing_by omega

/-- The number of a sign, a coefficient and a power of ten. -/
def ofDecimal (negative : Bool) (coefficient : Nat) (power : Int) : NumberKey :=
  if coefficient = 0 then finite false 0 0
  else
    let (c, e) := reduce coefficient power
    finite negative c e

/-- The number of an integer. -/
def ofInt (n : Int) : NumberKey :=
  ofDecimal (n < 0) n.natAbs 0

/-- The number of a double. -/
def ofBinary64? : Binary64 → Option NumberKey
  | .nan _ => none
  | .infinite negative => some (infinite negative)
  | .finite negative rank =>
    let below := (-Binary64.exponent rank).toNat
    some (ofDecimal negative (Binary64.numerator rank * Nat.pow 5 below) (-(below : Int)))

end NumberKey

/-- The result of a comparison, which may signal. -/
abbrev Comparison := Except DecimalSignal Bool

namespace Comparison

/-- Equal in one part and then in another one, which only counts if the first one is equal. -/
def andThen (first second : Comparison) : Comparison :=
  match first with
  | .ok true => second
  | other => other

end Comparison

namespace Value

/-- A value that is compared as a number; a NaN is a number that denotes nothing. -/
def numberKey? : Value → Option (Option NumberKey)
  | bool b => some (some (.ofInt (if b then 1 else 0)))
  | int n => some (some (.ofInt n))
  | member ⟨_, _, .number n, _, _⟩ => some (some (.ofInt n))
  | float x => some (NumberKey.ofBinary64? x)
  | decimal (.finite negative coefficient exponent) =>
    some (some (.ofDecimal negative coefficient exponent))
  | decimal (.infinite negative) => some (some (.infinite negative))
  | decimal (.nan ..) => some none
  | _ => none

/-- One and the same NaN. -/
def isSameNaN (a b : Value) : Bool :=
  match a, b with
  | float (.nan x), float (.nan y) => x == y
  | decimal (.nan _ _ _ x), decimal (.nan _ _ _ y) => x == y
  | _, _ => false

/-- The value, with the place where it was made if it is a NaN. -/
def withOrigin (origin : Nat) : Value → Value
  | float (.nan _) => float (.nan origin)
  | decimal (.nan negative signaling payload _) =>
    decimal (.nan negative signaling payload origin)
  | v => v

/-- The value is a NaN. -/
def isNaN : Value → Bool
  | float (.nan _) => true
  | decimal (.nan ..) => true
  | _ => false

/-- A NaN that signals when it is compared. -/
def isSignaling : Value → Bool
  | decimal (.nan _ signaling _ _) => signaling
  | _ => false

/-- Equality of values that are neither numbers nor containers. -/
def sameAtom (a b : Value) : Bool :=
  match a.asText?, b.asText? with
  | some x, some y => x == y
  | some _, none => false
  | none, some _ => false
  | none, none =>
    match a, b with
    | null, null => true
    | uuid x, uuid y => x == y
    | datetime x, datetime y => x.same y
    | date x, date y => x == y
    | time x, time y => x.same y
    | duration x, duration y => x == y
    | member x, member y => x == y
    | bytes x, bytes y => x == y
    | _, _ => false

/-- Comparison of values that are no containers. -/
def equalAtoms (a b : Value) : Comparison :=
  if a.isSameNaN b then .ok true
  else
    match a.numberKey?, b.numberKey? with
    | some x, some y =>
      if a.isSignaling || b.isSignaling then .error .invalidOperation
      else .ok (x.isSome && x == y)
    | some _, none => .ok false
    | none, some _ => .ok false
    | none, none => .ok (sameAtom a b)

mutual

/-- Comparison of keys, which do not signal. -/
def sameKey (a b : Value) : Bool :=
  match a with
  | tuple xs => match b with
    | tuple ys => sameKeys xs ys
    | _ => false
  | a => match equalAtoms a b with
    | .ok answer => answer
    | .error _ => false

/-- Comparison of the elements of keys. -/
def sameKeys : List Value → List Value → Bool
  | [], ys => ys.isEmpty
  | x :: xs, ys => match ys with
    | [] => false
    | y :: ys => sameKey x y && sameKeys xs ys

end

mutual

/-- Comparison of values. -/
def equal : Value → Value → Comparison
  | list xs, b => match b with
    | list ys => if xs.length = ys.length then equalAll xs ys else .ok false
    | _ => .ok false
  | tuple xs, b => match b with
    | tuple ys => equalAll xs ys
    | _ => .ok false
  | dict xs, b => match b with
    | dict ys => if xs.length = ys.length then equalEntries xs ys else .ok false
    | _ => .ok false
  | a, b => equalAtoms a b

/-- Comparison of lists, element by element. -/
def equalAll : List Value → List Value → Comparison
  | [], ys => .ok ys.isEmpty
  | x :: xs, ys => match ys with
    | [] => .ok false
    | y :: ys =>
      (equal x y).andThen (equalAll xs ys)

/-- Every entry of the first list has an equal one of its key in the second. -/
def equalEntries : List (Value × Value) → List (Value × Value) → Comparison
  | [], _ => .ok true
  | (key, value) :: rest, ys =>
    match ys.find? fun entry => sameKey key entry.1 with
    | none => .ok false
    | some entry =>
      (equal value entry.2).andThen (equalEntries rest ys)

end

mutual

/-- The value can be a key: it is no list and no dictionary, nor holds one, nor signals. -/
def isKey : Value → Bool
  | list _ => false
  | dict _ => false
  | tuple xs => areKeys xs
  | decimal (.nan _ signaling _ _) => !signaling
  | _ => true

/-- Every value of the list can be a key. -/
def areKeys : List Value → Bool
  | [] => true
  | x :: rest => isKey x && areKeys rest

end

/-- The entries with one more, which takes the place of an equal key's entry and keeps that key. -/
def insertEntry {α : Type} (key : Value) (value : α) : List (Value × α) → List (Value × α)
  | [] => [(key, value)]
  | (k, v) :: rest =>
    if sameKey k key then (k, value) :: rest else (k, v) :: insertEntry key value rest

/-- The dictionary of a list of entries, later ones replacing earlier ones. -/
def dictOf (entries : List (Value × Value)) : Value :=
  dict (entries.foldl (fun acc entry => insertEntry entry.1 entry.2 acc) [])

end Value

end PagedTables
