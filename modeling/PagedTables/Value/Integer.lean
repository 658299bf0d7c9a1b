import PagedTables.Value.Display

/-!
# Integers made of values

The integer that a value stands for: numbers without their fractions, the integers that texts and
strings of bytes spell, and the bits of an identifier. A text that spells none is shown in the
message, but not more than the start of its display.
-/
namespace PagedTables

/-- Why no integer can be made of a value. -/
inductive IntegerFault where
  /-- A text that spells none, by its display. -/
  | spelling (display : String)
  /-- A text with too many digits. -/
  | length (digits : Nat)
  | nanDouble
  | nanDecimal
  | infinite
  /-- A value that is neither a number nor a text. -/
  | noNumber
  deriving DecidableEq

namespace IntegerFault

/-- The message of a fault, if it has one. -/
def message? : IntegerFault → Option String
  | spelling display => some ("invalid literal for int() with base 10: " ++ display)
  | length digits => some ("Exceeds the limit (" ++ Text.maxIntegerDigits.repr ++
      " digits) for integer string conversion: value has " ++ digits.repr ++
      " digits; use sys.set_int_max_str_digits() to increase the limit")
  | nanDouble => some "cannot convert float NaN to integer"
  | nanDecimal => some "cannot convert NaN to integer"
  | infinite => none
  | noNumber => none

/-- The length at which a display is cut. -/
def shownLength : Nat := 200

/-- The fault of a text or of bytes, which are shown as a value. -/
def ofFlaw (shown : Value) : Text.IntegerFlaw → IntegerFault
  | .malformed => spelling (String.ofList (shown.display.toList.take shownLength))
  | .tooLong digits => length digits

end IntegerFault

namespace Value

/-- A byte as a character; bytes that are no ASCII are neither white nor digits. -/
def byteChar (b : UInt8) : Char :=
  if b < 0x80 then Char.ofNat b.toNat else Char.ofNat 0xFFFD

/-- The integer that a value stands for. -/
def toInteger (v : Value) : Except IntegerFault Int :=
  match v with
  | bool b => .ok (if b then 1 else 0)
  | int n => .ok n
  | member ⟨_, _, .number n, _, _⟩ => .ok n
  | float (.nan _) => .error .nanDouble
  | float x => (x.truncate?).elim (.error .infinite) .ok
  | decimal (.nan ..) => .error .nanDecimal
  | decimal d => (d.truncate?).elim (.error .infinite) .ok
  | uuid u => .ok u.toNat
  | text s => (Text.integerOf s).mapError (.ofFlaw v)
  | member ⟨_, _, .text s, _, _⟩ => (Text.integerOf s).mapError (.ofFlaw v)
  | bytes bs => (Text.readInteger Text.isWhite (bs.map byteChar)).mapError
      (.ofFlaw (bytes (bs.take IntegerFault.shownLength)))
  | _ => .error .noNumber

end Value

end PagedTables
