import PagedTables.Text.Blank

/-!
# Pieces of texts

What stands around an occurrence of a part in a text, and the pieces between several separators,
runs of blanks, or ends of lines. The number of cuts is bounded; as many cuts as the text has
characters are no bound. What is found from the end is found from the start of the reversed text.
-/
namespace PagedTables.Text

/-- What stands before and after the first occurrence of a part. -/
def around? (part : List Char) : List Char → Option (List Char × List Char)
  | [] => if part.isEmpty then some ([], []) else none
  | c :: rest =>
    if part.isPrefixOf (c :: rest) then some ([], (c :: rest).drop part.length)
    else (around? part rest).map fun (before, after) => (c :: before, after)

/-- What stands before and after the last occurrence of a part. -/
def aroundLast? (part cs : List Char) : Option (List Char × List Char) :=
  (around? part.reverse cs.reverse).map fun (after, before) => (before.reverse, after.reverse)

/-- The pieces of a text between a number of separators at most, from the start. -/
def pieces (separator : List Char) : Nat → List Char → List (List Char)
  | 0, cs => [cs]
  | count + 1, cs => match around? separator cs with
    | none => [cs]
    | some (before, after) => before :: pieces separator count after

/-- The pieces of a text between runs of blanks, with a number of cuts at most. The last piece
keeps the blanks behind it if no cut is left. -/
def words : Nat → List Char → List (List Char)
  | 0, cs => [cs.dropWhile isBlank].filter (!·.isEmpty)
  | count + 1, cs =>
    let cs := cs.dropWhile isBlank
    if cs.isEmpty then []
    else cs.takeWhile (!isBlank ·) :: words count (cs.dropWhile (!isBlank ·))

/-- What a way to cut texts finds from the end. -/
def fromEnd (cut : List Char → List (List Char)) (cs : List Char) : List (List Char) :=
  (cut cs.reverse).reverse.map List.reverse

/-- The text with a part between its characters and on both ends, a number of times at most. -/
def spread (part : List Char) : Nat → List Char → List Char
  | 0, cs => cs
  | _, [] => part
  | count + 1, c :: rest => part ++ c :: spread part count rest

/-- The text with a number of occurrences of a part at most replaced by another one. An empty part
occurs between any two characters and on both ends. -/
def replace (part other : List Char) (count : Nat) (cs : List Char) : List Char :=
  if part.isEmpty then spread other count cs
  else other.intercalate (pieces part count cs)

/-- The number of occurrences of a part that do not overlap. -/
def occurrences (part cs : List Char) : Nat :=
  if part.isEmpty then cs.length + 1 else (pieces part cs.length cs).length - 1

/-- The characters that end a line. -/
def isLineEnd (c : Char) : Bool :=
  (10 ≤ c.toNat && c.toNat ≤ 13) || (0x1C ≤ c.toNat && c.toNat ≤ 0x1E) ||
    c.toNat == 0x85 || c.toNat == 0x2028 || c.toNat == 0x2029

/-- The lines of a text after the characters of a line, nearest first, with or without their
ends. A carriage return and a line feed end one line together. -/
def linesAfter (keepsEnds : Bool) (line : List Char) : List Char → List (List Char)
  | [] => if line.isEmpty then [] else [line.reverse]
  | '\r' :: '\n' :: rest =>
    (line.reverse ++ if keepsEnds then ['\r', '\n'] else []) :: linesAfter keepsEnds [] rest
  | c :: rest =>
    if isLineEnd c then
      (line.reverse ++ if keepsEnds then [c] else []) :: linesAfter keepsEnds [] rest
    else linesAfter keepsEnds (c :: line) rest

end PagedTables.Text
