import PagedTables.Text.CaseTable

/-!
# Letter case

The full case mappings: the image of one character may have several. ASCII letters are mapped by
their code points and the rest by the tables. A capital sigma has two lower-case forms; at the end
of a word, after a cased character and before none, it is the final one.
-/
namespace PagedTables.Text

/-- The single image that a list of runs gives to the code point `n`. -/
def runImage? (runs : List (Nat × Nat × Nat × Int)) (n : Nat) : Option Nat :=
  (runs.find? fun (first, last, step, _) => first ≤ n && n ≤ last && (n - first) % step == 0).map
    fun (_, _, _, shift) => (n + shift).toNat

/-- The upper case of one character. -/
def upperChar (c : Char) : List Char :=
  if c.toNat < 0x80 then [c.toUpper]
  else match CaseTable.upperLong.lookup c.toNat with
    | some image => image.map Char.ofNat
    | none => [((runImage? CaseTable.upperRuns c.toNat).map Char.ofNat).getD c]

/-- The lower case of one character that stands alone. -/
def lowerChar (c : Char) : List Char :=
  if c.toNat < 0x80 then [c.toLower]
  else if c.toNat = 0x130 then [Char.ofNat 0x69, Char.ofNat 0x307]
  else [((runImage? CaseTable.lowerRuns c.toNat).map Char.ofNat).getD c]

/-- A cased character other than the ignorable ones. -/
def isCased (c : Char) : Bool :=
  CaseTable.cased.any fun (first, last) => first ≤ c.toNat && c.toNat ≤ last

/-- A character that is passed over in the search for a cased neighbour. -/
def isCaseIgnorable (c : Char) : Bool :=
  CaseTable.ignorable.any fun (first, last) => first ≤ c.toNat && c.toNat ≤ last

/-- The nearest character that is not ignorable, if there is one, is cased. -/
def nextIsCased (cs : List Char) : Bool :=
  ((cs.dropWhile isCaseIgnorable).head?.map isCased).getD false

/-- The upper case of a list of characters. -/
def upperChars (cs : List Char) : List Char :=
  cs.flatMap upperChar

/-- The lower case of `cs` after the characters `before`, nearest first. -/
def lowerAfter (before : List Char) : List Char → List Char
  | [] => []
  | c :: rest =>
    (if c.toNat = 0x3A3 then
      [Char.ofNat (if nextIsCased before && !nextIsCased rest then 0x3C2 else 0x3C3)]
    else lowerChar c) ++ lowerAfter (c :: before) rest

/-- The text in upper case. -/
def upper (s : String) : String :=
  String.ofList (upperChars s.toList)

/-- The text in lower case. -/
def lower (s : String) : String :=
  String.ofList (lowerAfter [] s.toList)

/-! ## Capitals in ASCII -/

/-- Every character is one of ASCII. -/
def isAscii (cs : List Char) : Bool :=
  cs.all (·.toNat < 0x80)

/-- The ASCII text with a capital at the start of each run of letters and none within it. -/
def titled (isInRun : Bool) : List Char → List Char
  | [] => []
  | c :: rest => (if isInRun then c.toLower else c.toUpper) :: titled c.isAlpha rest

/-- The ASCII text with a capital at its start and none behind it. -/
def capitalized : List Char → List Char
  | [] => []
  | c :: rest => c.toUpper :: rest.map Char.toLower

/-- The ASCII letter in the other case. -/
def swapCase (c : Char) : Char :=
  if c.isUpper then c.toLower else c.toUpper

end PagedTables.Text
