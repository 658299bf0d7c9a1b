import PagedTables.TypeText.Operation

/-!
# Forms of values in texts

The text of a value in a form that is asked for: a width, the side on which the value stands in it
and the character that fills the rest, the sign and base of an integer, and how much of a text is
shown. Texts, integers and truth values have forms. Other values have none here.
-/
namespace PagedTables.TypeText

/-- What is asked of the text of a value. -/
structure Form where
  fill : Option Char
  align : Option Char
  sign : Option Char
  /-- The sign of a negative zero is dropped. -/
  isUnsigned : Bool
  /-- The base of a number is shown. -/
  isAlternate : Bool
  /-- The width begins with a zero. -/
  isZeroFilled : Bool
  width : List Char
  /-- The mark between groups of digits. -/
  grouping : Option Char
  precision : Option (List Char)
  /-- The letter of the kind of text. -/
  kind : List Char

namespace Form

/-- A character that says on which side a value stands. -/
def isAlign (c : Char) : Bool :=
  c = '<' || c = '>' || c = '=' || c = '^'

/-- The first character if it satisfies `p`, and what follows. -/
def takeIf (p : Char → Bool) : List Char → Option Char × List Char
  | [] => (none, [])
  | c :: rest => if p c then (some c, rest) else (none, c :: rest)

/-- The parts of what is asked for. -/
def read (cs : List Char) : Form :=
  let (fill, cs) := match cs with
    | c :: a :: rest => if isAlign a then (some c, a :: rest) else (none, cs)
    | cs => (none, cs)
  let (align, cs) := takeIf isAlign cs
  let (sign, cs) := takeIf (fun c => c = ' ' || c = '+' || c = '-') cs
  let (unsigned, cs) := takeIf (· = 'z') cs
  let (alternate, cs) := takeIf (· = '#') cs
  let (zero, cs) := takeIf (fun c => fill.isNone && c = '0') cs
  let width := cs.takeWhile Char.isDigit
  let (grouping, cs) := takeIf (fun c => c = ',' || c = '_') (cs.drop width.length)
  let (precision, cs) := match cs with
    | '.' :: rest =>
      let digits := rest.takeWhile Char.isDigit
      (some digits, rest.drop digits.length)
    | cs => (none, cs)
  ⟨fill, align, sign, unsigned.isSome, alternate.isSome, zero.isSome, width, grouping, precision,
    cs⟩

/-- The first fault that a form has for every type, as its message says. -/
def fault? (f : Form) (cs : List Char) (typeName : String) : Option String :=
  let isLong (digits : List Char) : Bool := 18 < digits.length
  if isLong f.width || f.precision.any isLong then
    some "Too many decimal digits in format string"
  else if f.precision = some [] then some "Format specifier missing precision"
  else if 1 < f.kind.length then
    some ("Invalid format specifier '" ++ String.ofList cs ++ "' for object of type '" ++
      typeName ++ "'")
  else none

/-- The number that digits spell, which is zero for none. -/
def number (digits : List Char) : Nat :=
  Nat.ofDigitChars 10 digits 0

/-- A text of a start, which stays in front, and a rest in the width of the form. -/
def fit (f : Form) (default : Char) (start rest : List Char) : List Char :=
  let isInner := default = '>' && f.isZeroFilled && f.align.isNone
  let gap := number f.width - (start.length + rest.length)
  let fill (n : Nat) : List Char :=
    List.replicate n (f.fill.getD (if f.isZeroFilled then '0' else ' '))
  match if isInner then '=' else f.align.getD default with
  | '<' => start ++ rest ++ fill gap
  | '^' => fill (gap / 2) ++ start ++ rest ++ fill (gap - gap / 2)
  | '=' => start ++ fill gap ++ rest
  | _ => fill gap ++ start ++ rest

/-- The fault of a letter that a type has no text for. -/
def unknownKind (kind : List Char) (typeName : String) : String :=
  "Unknown format code '" ++ String.ofList kind ++ "' for object of type '" ++ typeName ++ "'"

/-- A text in a form. -/
def ofText (f : Form) (cs : List Char) : Found (List Char) :=
  let fault (message : String) : Found (List Char) := .error (.operand message)
  if f.kind ≠ [] && f.kind ≠ ['s'] then fault (unknownKind f.kind "str")
  else match f.grouping, f.sign with
    | some c, _ => fault ("Cannot specify '" ++ String.singleton c ++ "' with 's'.")
    | none, some ' ' => fault "Space not allowed in string format specifier"
    | none, some _ => fault "Sign not allowed in string format specifier"
    | none, none =>
      if f.isUnsigned then
        fault "Negative zero coercion (z) not allowed in string format specifier"
      else if f.isAlternate then
        fault "Alternate form (#) not allowed in string format specifier"
      else if f.align = some '=' then
        fault "'=' alignment not allowed in string format specifier"
      else .ok (f.fit '<' [] ((f.precision.map fun p => cs.take (number p)).getD cs))

/-- An integer of a type in a form. -/
def ofInt (f : Form) (typeName : String) (n : Int) : Found (List Char) :=
  let fault (message : String) : Found (List Char) := .error (.operand message)
  let start (mark : String) : List Char :=
    (if n < 0 then ['-'] else match f.sign with
      | some ' ' => [' ']
      | some '+' => ['+']
      | _ => []) ++ (if f.isAlternate then mark.toList else [])
  let written (base : Nat) (mark : String) (isCapital : Bool) : Found (List Char) :=
    if f.precision.isSome then fault "Precision not allowed in integer format specifier"
    else if f.isUnsigned then
      fault "Negative zero coercion (z) not allowed in integer format specifier"
    else if f.grouping.isSome then .error .senseless
    else
      let digits := Nat.toDigits base n.natAbs
      .ok (f.fit '>' (start mark) (if isCapital then digits.map Char.toUpper else digits))
  match f.kind with
  | [] => written 10 "" false
  | ['d'] => written 10 "" false
  | ['n'] => written 10 "" false
  | ['b'] => written 2 "0b" false
  | ['o'] => written 8 "0o" false
  | ['x'] => written 16 "0x" false
  | ['X'] => written 16 "0X" true
  | kind =>
    if ["c", "e", "E", "f", "F", "g", "G", "%"].contains (String.ofList kind) then
      .error .senseless
    else fault (unknownKind kind typeName)

end Form

namespace Meaning

/-- The text of a meaning in a form. -/
def inForm (m : Meaning) (form : String) : Found String :=
  let cs := form.toList
  let f := Form.read cs
  if cs.isEmpty then (textOf? false m).elim unfit .ok
  else match m.asText?, m.whole? with
    | some s, _ => written f cs (f.ofText s.toList)
    | none, some n => written f cs (f.ofInt m.typeName n)
    | none, none => unfit
where
  /-- The text, unless the form has a fault. -/
  written (f : Form) (cs : List Char) (text : Found (List Char)) : Found String :=
    match f.fault? cs m.typeName with
    | some message => .error (.operand message)
    | none => if maxRepeated < Form.number f.width then unfit else text.map String.ofList

end Meaning

end PagedTables.TypeText
