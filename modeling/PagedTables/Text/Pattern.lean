import PagedTables.Text.Digits

/-!
# Patterns

A pattern is a text or a string of bytes with marks, the places of arguments. A mark is a percent
sign; a name between parentheses if a part of what the pattern is filled in with is meant; flags;
the least width; after a point, the greatest length; a letter of size, which says nothing; and the
letter that says what is written. A star in the place of a width or length takes an argument for
it. Two percent signs stand for one.

Arguments are taken one after the other, and none may be left over unless there are parts by name.
Marks are read and filled from left to right, so the first fault in that order is the one that is
reported.
-/
namespace PagedTables

/-- What a pattern is made of; bytes are taken for the characters of the same numbers. -/
inductive PatternKind where
  | text
  | bytes
  deriving DecidableEq

/-- The letters that marks have. -/
def PatternKind.letters : PatternKind → List Char
  | text => "srcdiuoxXeEfFgGa".toList
  | bytes => "srcdiuoxXeEfFgGab".toList

/-- Why a pattern cannot be filled in. -/
inductive PatternFault where
  /-- An argument is not what a mark asks for, or there are too many or too few. -/
  | unfit
  /-- The parentheses around a name are not closed. -/
  | openName
  /-- The pattern ends within a mark. -/
  | openMark
  /-- A width or a length is too large to be read. -/
  | width
  | length (kind : PatternKind)
  /-- A width is too large to be filled. -/
  | space
  /-- There is no such letter; it is shown with its number and its place in the pattern. -/
  | letter (shown : Char) (number place : Nat)
  /-- There is no such letter, and it cannot be shown. -/
  | unshownLetter
  /-- An argument cannot be shown, because it holds an integer of too many digits. -/
  | integer
  deriving DecidableEq

/-- The wording of a fault, if it has one. -/
def PatternFault.message? : PatternFault → Option String
  | openName => some "incomplete format key"
  | openMark => some "incomplete format"
  | width => some "width too big"
  | length .text => some "precision too big"
  | length .bytes => some "prec too big"
  | letter shown number place => some ("unsupported format character '" ++
      String.singleton shown ++ "' (0x" ++ String.ofList (Nat.toDigits 16 number) ++
      ") at index " ++ place.repr)
  | integer => some Text.unwritableMessage
  | _ => none

/-- A mark of a pattern after the name that it may have. -/
structure PatternMark where
  /-- The place is filled up on the right. -/
  isLeft : Bool
  /-- A plus sign, or else a space, stands before numbers that are not negative. -/
  isSigned : Bool
  isSpaced : Bool
  /-- The base of a number is shown. -/
  isAlternate : Bool
  /-- The place of a number is filled up with zeros. -/
  isZeroFilled : Bool
  width : Nat
  length : Option Nat
  letter : Char
  /-- The letter follows a digit of the width or of the length. -/
  isBehindDigit : Bool
  /-- How many arguments the stars of the mark take. -/
  stars : Nat
  /-- How many characters the mark takes. -/
  size : Nat

/-- The name before the parenthesis that closes it; `depth` others are open. -/
def partName? (depth : Nat) : List Char → Option (List Char)
  | [] => none
  | ')' :: rest => match depth with
    | 0 => some []
    | depth + 1 => (partName? depth rest).map (')' :: ·)
  | '(' :: rest => (partName? (depth + 1) rest).map ('(' :: ·)
  | c :: rest => (partName? depth rest).map (c :: ·)

/-- A number of a mark as it is written: digits, perhaps none, or a star. -/
structure MarkNumber where
  value : Option Int
  isStar : Bool
  size : Nat

/-- There is nothing in the place of a number. -/
def MarkNumber.none : MarkNumber :=
  ⟨.none, false, 0⟩

namespace PatternMark

/-- The largest width that is read. -/
def maxWidth : Nat := Nat.pow 2 63 - 1

/-- The largest length that is read. -/
def maxLength : Nat := Nat.pow 2 31 - 1

/-- The largest width that is filled. -/
def maxSpace : Nat := Nat.pow 2 27

/-- The number at the start of the characters, where a star stands for an argument. -/
def number (star : Except PatternFault Int) (limit : Nat) (fault : PatternFault)
    (cs : List Char) : Except PatternFault MarkNumber :=
  let digits := cs.takeWhile Char.isDigit
  let value := Nat.ofDigitChars 10 digits 0
  if cs.head? = some '*' then star.map fun n => ⟨some n, true, 1⟩
  else if limit < value then .error fault
  else .ok ⟨if digits.isEmpty then none else some value, false, digits.length⟩

/-- The mark at the start of a pattern, whose stars take the arguments of the given places. -/
def read (kind : PatternKind) (star : Nat → Except PatternFault Int) (cs : List Char) :
    Except PatternFault PatternMark := do
  let flags := cs.takeWhile ['-', '+', ' ', '#', '0'].contains
  let afterFlags := cs.drop flags.length
  let width ← number (star 0) maxWidth .width afterFlags
  let widthStars := if width.isStar then 1 else 0
  let afterWidth := afterFlags.drop width.size
  let (hasLength, length) ← match afterWidth with
    | '.' :: rest => (number (star widthStars) maxLength (.length kind) rest).map (true, ·)
    | _ => .ok (false, .none)
  let afterLength := if hasLength then afterWidth.drop (length.size + 1) else afterWidth
  let isSized := (afterLength.head?.map ['h', 'l', 'L'].contains).getD false
  let last := if hasLength then length else width
  match if isSized then afterLength.drop 1 else afterLength with
  | [] => .error .openMark
  | letter :: rest =>
    return {
      isLeft := flags.contains '-' || (width.value.getD 0) < 0
      isSigned := flags.contains '+'
      isSpaced := flags.contains ' '
      isAlternate := flags.contains '#'
      isZeroFilled := flags.contains '0'
      width := (width.value.getD 0).natAbs
      length := if hasLength then some (length.value.getD 0).toNat else none
      letter := letter
      isBehindDigit := !isSized && !last.isStar && 0 < last.size
      stars := widthStars + (if length.isStar then 1 else 0)
      size := cs.length - rest.length }

/-- Characters in the width of the mark; a start stays in front of zeros that fill it up. -/
def place (m : PatternMark) (isZeroFilled : Bool) (start rest : List Char) :
    Except PatternFault (List Char) :=
  if maxSpace < m.width then .error .space
  else
    let gap := m.width - (start.length + rest.length)
    .ok (if m.isLeft then start ++ rest ++ List.replicate gap ' '
      else if isZeroFilled then start ++ List.replicate gap '0' ++ rest
      else List.replicate gap ' ' ++ start ++ rest)

/-- A text cut to the greatest length, in the width of the mark. -/
def fit (m : PatternMark) (shown : List Char) : Except PatternFault (List Char) :=
  m.place false [] ((m.length.map shown.take).getD shown)

/-- An integer with the base, sign and number of digits that the mark asks for. -/
def fitInt (m : PatternMark) (n : Int) : Except PatternFault (List Char) :=
  let (base, mark) := match m.letter with
    | 'o' => (8, ['0', 'o'])
    | 'x' => (16, ['0', 'x'])
    | 'X' => (16, ['0', 'X'])
    | _ => (10, [])
  let digits := Nat.toDigits base n.natAbs
  let digits := if m.letter = 'X' then digits.map Char.toUpper else digits
  let zeros := List.replicate (m.length.getD 0 - digits.length) '0'
  let sign := if n < 0 then ['-'] else if m.isSigned then ['+']
    else if m.isSpaced then [' '] else []
  if (m.length.map (decide <| maxSpace < ·)).getD false then .error .space
  else m.place m.isZeroFilled (sign ++ if m.isAlternate then mark else []) (zeros ++ digits)

/-- The fault of a letter at a place that is none of those that marks have. -/
def letterFault (kind : PatternKind) (place : Nat) (m : PatternMark) : PatternFault :=
  let number := m.letter.toNat
  match kind with
  | .text => .letter (if 0x1F ≤ number && number < 0x7F then m.letter else '?') number place
  | .bytes =>
    if number < 0x80 || m.isBehindDigit then .letter m.letter number place else .unshownLetter

end PatternMark

/-- How patterns of a kind are filled in with arguments. -/
structure Filling (α ε : Type) where
  kind : PatternKind
  /-- The fault of the program that a fault of a pattern is. -/
  fault : PatternFault → ε
  /-- The parts by their names, if there are such. -/
  part? : Option (List Char → Except ε α)
  /-- The integer that an argument is. -/
  integer? : α → Option Int
  /-- What a mark writes for an argument. -/
  write : PatternMark → α → Except ε (List Char)

namespace Filling

variable {α ε : Type}

/-- The name at the start of a mark and the part that it means, if it has a name. -/
def named? (f : Filling α ε) (cs : List Char) : Except ε (Option (List Char × α)) :=
  match cs, f.part? with
  | '(' :: _, none => .error (f.fault .unfit)
  | '(' :: rest, some part => match partName? 0 rest with
    | none => .error (f.fault .openName)
    | some name => (part name).map fun x => some (name, x)
  | _, _ => .ok none

/-- The integer that is given for a star by an argument. -/
def star (f : Filling α ε) (pending : List α) (i : Nat) : Except PatternFault Int :=
  match pending[i]?.bind f.integer? with
  | some n => .ok n
  | none => .error .unfit

/-- The end `cs` of a pattern of `size` characters filled in with the arguments that are left. -/
def fillFrom (f : Filling α ε) (size : Nat) (pending : List α) (cs : List Char) :
    Except ε (List Char) :=
  match cs with
  | [] => if pending.isEmpty || f.part?.isSome then .ok [] else .error (f.fault .unfit)
  | '%' :: '%' :: rest => (fillFrom f size pending rest).map ('%' :: ·)
  | '%' :: rest => do
    let named ← f.named? rest
    let rest := rest.drop ((named.map (·.1.length + 2)).getD 0)
    let pending := (named.map fun (_, x) => [x]).getD pending
    let mark ← (PatternMark.read f.kind (f.star pending) rest).mapError f.fault
    let rest := rest.drop mark.size
    match pending.drop mark.stars with
    | [] => .error (f.fault .unfit)
    | x :: pending =>
      if f.kind.letters.contains mark.letter then
        let written ← f.write mark x
        return written ++ (← fillFrom f size pending rest)
      else .error (f.fault (mark.letterFault f.kind (size - rest.length - 1)))
  | c :: rest => (fillFrom f size pending rest).map (c :: ·)
  termination_by cs.length
  decreasing_by all_goals simp only [List.length_cons, List.length_drop]; omega

/-- A pattern filled in with arguments. -/
def fill (f : Filling α ε) (arguments : List α) (pattern : List Char) : Except ε (List Char) :=
  fillFrom f pattern.length arguments pattern

end Filling

end PagedTables
