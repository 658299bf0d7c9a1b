/-!
# Blank characters

Two classes of white characters. `isWhite` is the white space of the Unicode character database;
it may surround a number. `isBlank` adds the four information separators of ASCII; it is what
counts as blank when a text is trimmed. Trimming removes blanks from both ends of a text and
nothing from its middle.
-/
namespace PagedTables.Text

/-- White space in the sense of the Unicode character database. -/
def isWhite (c : Char) : Bool :=
  let n := c.toNat
  (9 ≤ n && n ≤ 13) || n == 0x20 || n == 0x85 || n == 0xA0 || n == 0x1680 ||
    (0x2000 ≤ n && n ≤ 0x200A) || n == 0x2028 || n == 0x2029 || n == 0x202F || n == 0x205F ||
    n == 0x3000

/-- White space, and the separators U+001C to U+001F. -/
def isBlank (c : Char) : Bool :=
  isWhite c || (0x1C ≤ c.toNat && c.toNat ≤ 0x1F)

/-- The list without the longest run of characters at its end that satisfy `p`. -/
def dropEndWhile (p : Char → Bool) (cs : List Char) : List Char :=
  (cs.reverse.dropWhile p).reverse

/-- The list without the characters at either end that satisfy `p`. -/
def trimWhile (p : Char → Bool) (cs : List Char) : List Char :=
  dropEndWhile p (cs.dropWhile p)

/-- The text without blanks at either end. -/
def trim (s : String) : String :=
  String.ofList (trimWhile isBlank s.toList)

/-- A text with nothing but blanks in it, the empty text included. -/
def allBlank (s : String) : Bool :=
  s.toList.all isBlank

/-- The text unless it is absent or empty. -/
def filled (s : Option String) : Option String :=
  s.filter (!·.isEmpty)

end PagedTables.Text
