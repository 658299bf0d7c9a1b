import PagedTables.Text.Digits
import PagedTables.Text.Printable

/-!
# Quoted display

How a text or a string of bytes is shown inside a message: between single quotes, or between
double quotes when it holds a single quote and no double one, with backslash escapes for the
quote itself, for the backslash and for every character that is not printable.
-/
namespace PagedTables.Text

/-- The quote that displays `cs` with the fewest escapes, the single one by preference. -/
def quoteMark (cs : List Char) : Char :=
  if cs.contains '\'' && !cs.contains '"' then '"' else '\''

/-- The escape of a character by its code point, with as few digits as there are forms for. -/
def codeEscape (c : Char) : List Char :=
  if c.toNat < 0x100 then '\\' :: 'x' :: paddedIn 16 2 c.toNat
  else if c.toNat < 0x10000 then '\\' :: 'u' :: paddedIn 16 4 c.toNat
  else '\\' :: 'U' :: paddedIn 16 8 c.toNat

/-- The characters with escapes for those that are not ASCII. -/
def asciiOnly (cs : List Char) : List Char :=
  cs.flatMap fun c => if c.toNat < 0x80 then [c] else codeEscape c

/-- One character between quotes `mark`. -/
def displayChar (mark c : Char) : List Char :=
  if c = mark || c = '\\' then ['\\', c]
  else if c = '\n' then ['\\', 'n']
  else if c = '\r' then ['\\', 'r']
  else if c = '\t' then ['\\', 't']
  else if isPrintable c then [c]
  else codeEscape c

/-- The quoted display of a text. -/
def quoted (s : String) : String :=
  let mark := quoteMark s.toList
  String.ofList (mark :: s.toList.flatMap (displayChar mark) ++ [mark])

/-- One byte between quotes `mark`: ASCII as itself, the rest as an escape. -/
def displayByte (mark : Char) (b : UInt8) : List Char :=
  if b < 0x7F then displayChar mark (Char.ofNat b.toNat)
  else '\\' :: 'x' :: paddedIn 16 2 b.toNat

/-- The quoted display of a string of bytes, marked by the letter b. -/
def quotedBytes (bs : List UInt8) : String :=
  let mark := quoteMark (bs.map fun b => Char.ofNat b.toNat)
  String.ofList ('b' :: mark :: bs.flatMap (displayByte mark) ++ [mark])

end PagedTables.Text
