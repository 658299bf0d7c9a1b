import PagedTables.Text.Digits

/-!
# Percent encoding

The encoding of values in a query string. Letters and digits of ASCII and a few marks stand for
themselves; every other character becomes the bytes of its UTF-8 form, each as a percent sign and
two upper-case hexadecimal digits. The marks that are kept include the ones that filter texts use
most (quotes, parentheses, commas), and never a separator of query strings. Texts are sequences of
scalar values, so that each character of one has such a form; a surrogate alone has none.
-/
namespace PagedTables.Text

/-- The marks besides letters and digits that stand for themselves. -/
def plainMarks : List Char :=
  ['-', '.', '_', '~', '\'', '(', ')', '*', '!', ',']

/-- The character needs no encoding. -/
def isPlain (c : Char) : Bool :=
  c.isAlphanum || plainMarks.contains c

/-- A byte as a percent sign and two upper-case hexadecimal digits. -/
def percentByte (b : UInt8) : List Char :=
  '%' :: (paddedIn 16 2 b.toNat).map Char.toUpper

/-- One character of an encoded value. -/
def percentChar (c : Char) : List Char :=
  if isPlain c then [c] else (String.utf8EncodeChar c).flatMap percentByte

/-- The percent encoding of a value. -/
def percentEncode (s : String) : String :=
  String.ofList (s.toList.flatMap percentChar)

/--
The bytes that a percent-encoded text stands for. A percent sign that two hexadecimal digits do
not follow makes it no encoded text.
-/
def percentBytes? : List Char → Option (List UInt8)
  | [] => some []
  | '%' :: high :: low :: rest => do
    let h ← hexValue? high
    let l ← hexValue? low
    return UInt8.ofNat (16 * h + l) :: (← percentBytes? rest)
  | c :: rest =>
    if c = '%' then none
    else (percentBytes? rest).map (String.utf8EncodeChar c ++ ·)

/-- The value that a percent-encoded text stands for, its bytes read as UTF-8. -/
def percentDecode? (s : String) : Option String := do
  String.fromUTF8? ⟨(← percentBytes? s.toList).toArray⟩

end PagedTables.Text
