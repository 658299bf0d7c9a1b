import PagedTables.Text.Blank

/-!
# Digits

Whole numbers as text: plain decimal texts, fields padded with zeros, and the reader of integer
texts that allows white space around the number, one sign, decimal digits of any script and single
underscores between digits.

Writing is `Nat.toDigits`, whose inverse on digit lists is `Nat.ofDigitChars`; both belong to the
core library, so their laws are at hand wherever a text made here has to be read back.
-/
namespace PagedTables.Text

/-- The decimal text of an integer, with a minus sign in front of a negative one. -/
def ofInt : Int → String
  | .ofNat n => n.repr
  | .negSucc n => "-" ++ (n + 1).repr

/-- The digits of `n` in `base`, filled up on the left with zeros to at least `width` places. -/
def paddedIn (base width n : Nat) : List Char :=
  List.replicate (width - (Nat.toDigits base n).length) '0' ++ Nat.toDigits base n

/-- The decimal digits of `n` in a field of at least `width` places. -/
def padded (width n : Nat) : String :=
  String.ofList (paddedIn 10 width n)

/-- The value of a hexadecimal digit of either case. -/
def hexValue? (c : Char) : Option Nat :=
  if '0' ≤ c ∧ c ≤ '9' then some (c.toNat - 48)
  else if 'a' ≤ c ∧ c ≤ 'f' then some (c.toNat - 87)
  else if 'A' ≤ c ∧ c ≤ 'F' then some (c.toNat - 55)
  else none

/-- The value of a non-empty text of hexadecimal digits. -/
def readHex? (cs : List Char) : Option Nat :=
  if cs.isEmpty then none
  else cs.foldl (fun acc c => acc.bind fun n => (hexValue? c).map (16 * n + ·)) (some 0)

/-- The value of a non-empty text of ASCII digits and nothing else. -/
def readNat? (cs : List Char) : Option Nat :=
  if cs.isEmpty || !cs.all Char.isDigit then none
  else some (Nat.ofDigitChars 10 cs 0)

/-- The zeros of the decimal digits of all scripts, version 14 of the character database. -/
def decimalZeros : List Nat := [
    0x30, 0x660, 0x6F0, 0x7C0, 0x966, 0x9E6, 0xA66, 0xAE6, 0xB66, 0xBE6, 0xC66, 0xCE6, 0xD66,
    0xDE6, 0xE50, 0xED0, 0xF20, 0x1040, 0x1090, 0x17E0, 0x1810, 0x1946, 0x19D0, 0x1A80, 0x1A90,
    0x1B50, 0x1BB0, 0x1C40, 0x1C50, 0xA620, 0xA8D0, 0xA900, 0xA9D0, 0xA9F0, 0xAA50, 0xABF0, 0xFF10,
    0x104A0, 0x10D30, 0x11066, 0x110F0, 0x11136, 0x111D0, 0x112F0, 0x11450, 0x114D0, 0x11650,
    0x116C0, 0x11730, 0x118E0, 0x11950, 0x11C50, 0x11D50, 0x11DA0, 0x16A60, 0x16AC0, 0x16B50,
    0x1D7CE, 0x1D7D8, 0x1D7E2, 0x1D7EC, 0x1D7F6, 0x1E140, 0x1E2F0, 0x1E950, 0x1FBF0]

/-- A decimal digit of any script becomes the ASCII digit of its value; the rest stays. -/
def asciiDigit (c : Char) : Char :=
  match decimalZeros.find? fun first => first ≤ c.toNat && c.toNat ≤ first + 9 with
  | some first => Nat.digitChar (c.toNat - first)
  | none => c

/-- A leading sign and what follows it; `true` is a minus. -/
def takeSign : List Char → Bool × List Char
  | '-' :: rest => (true, rest)
  | '+' :: rest => (false, rest)
  | cs => (false, cs)

/--
The characters of a number without the underscores in it. An underscore stands between two
digits; one in any other place makes the text no number.
-/
def dropUnderscores? : List Char → Option (List Char)
  | [] => some []
  | '_' :: _ => none
  | c :: '_' :: rest =>
    if c.isDigit && (rest.head?.map Char.isDigit).getD false then
      (dropUnderscores? rest).map (c :: ·)
    else none
  | c :: rest => (dropUnderscores? rest).map (c :: ·)

/--
Most digits an integer text may have: longer ones are refused, whatever they spell, and no integer
is written with more.
-/
def maxIntegerDigits : Nat := 4300

/-- The integer has no more digits than a text of one may have. -/
def isWritable (n : Int) : Bool :=
  (Nat.toDigits 10 n.natAbs).length ≤ maxIntegerDigits

/-- The wording of the refusal to write an integer. -/
def unwritableMessage : String :=
  "Exceeds the limit (" ++ maxIntegerDigits.repr ++
    " digits) for integer string conversion; use sys.set_int_max_str_digits() to increase the limit"

/-- Why characters spell no integer. -/
inductive IntegerFlaw where
  | malformed
  /-- More digits than are ever read. -/
  | tooLong (digits : Nat)
  deriving DecidableEq

/-- The integer that characters spell: white space around a sign and ASCII digits. -/
def readInteger (white : Char → Bool) (cs : List Char) : Except IntegerFlaw Int :=
  let (negative, cs) := takeSign (cs.dropWhile white)
  let isPart (c : Char) : Bool := c.isDigit || c = '_'
  match (dropUnderscores? (cs.takeWhile isPart)).bind fun digits =>
      (readNat? digits).map (digits.length, ·) with
  | none => .error .malformed
  | some (length, n) =>
    if maxIntegerDigits < length then .error (.tooLong length)
    else if (cs.dropWhile isPart).all white then .ok (if negative then -(n : Int) else n)
    else .error .malformed

/-- The integer that a text spells, its digits being of any script. -/
def integerOf (s : String) : Except IntegerFlaw Int :=
  readInteger isWhite (s.toList.map asciiDigit)

/-- The integer that a text spells, if it does. -/
def readInteger? (s : String) : Option Int :=
  (integerOf s).toOption

end PagedTables.Text
