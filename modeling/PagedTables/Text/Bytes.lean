import PagedTables.Text.Digits

/-!
# Strings of bytes

The few things that strings of bytes share with texts: blanks at their ends, and letters in two
cases. Both are those of ASCII. Bytes are written with two hexadecimal digits each.
-/
namespace PagedTables.Bytes

/-- A space, or one of the characters from tab to carriage return. -/
def isBlank (b : UInt8) : Bool :=
  b == 0x20 || (0x09 ≤ b && b ≤ 0x0D)

/-- The list without the bytes at either end that satisfy `p`. -/
def trimWhile (p : UInt8 → Bool) (bs : List UInt8) : List UInt8 :=
  ((bs.dropWhile p).reverse.dropWhile p).reverse

/-- The bytes without blanks at either end. -/
def trim (bs : List UInt8) : List UInt8 :=
  trimWhile isBlank bs

/-- The bytes with small letters. -/
def lower (bs : List UInt8) : List UInt8 :=
  bs.map fun b => if 0x41 ≤ b && b ≤ 0x5A then b + 0x20 else b

/-- The bytes with capital letters. -/
def upper (bs : List UInt8) : List UInt8 :=
  bs.map fun b => if 0x61 ≤ b && b ≤ 0x7A then b - 0x20 else b

/-- The bytes that pairs of hexadecimal digits spell. -/
def ofHex : List Char → List UInt8
  | a :: b :: rest => UInt8.ofNat ((Text.readHex? [a, b]).getD 0) :: ofHex rest
  | _ => []

/-- The hexadecimal digits of bytes. -/
def toHex (bs : List UInt8) : String :=
  String.ofList (bs.flatMap fun b => Text.paddedIn 16 2 b.toNat)

end PagedTables.Bytes
