import PagedTables.Text.Digits
import PagedTables.TypeText.Attribute
import PagedTables.TypeText.Form

/-!
# Templates

A text with fields between braces that values are put into. A field names a value by its number or
by a word, and goes on to its attributes and elements; a mark after it asks for the display of the
value, and what follows a colon is the form of the text. A form may have fields of its own, but
those may have none. A brace that is written twice stands for itself.
-/
namespace PagedTables.TypeText.Template

/-- The brace that begins a field. -/
def opening : Char := '\x7b'

/-- The brace that ends a field. -/
def closing : Char := '\x7d'

/-- A fault of a template. -/
def fault {α : Type} (message : String) : Found α :=
  .error (.operand message)

/-- The text before the next field, and what begins with that field unless there is none. -/
def plainPart : List Char → Found (List Char × Option (List Char))
  | [] => .ok ([], none)
  | c :: rest =>
    if c = opening || c = closing then
      match rest with
      | d :: rest =>
        if d = c then (plainPart rest).map fun (cs, field) => (c :: cs, field)
        else if c = opening then .ok ([], some (d :: rest))
        else fault "Single '\x7d' encountered in format string"
      | [] => fault ("Single '" ++ String.singleton c ++ "' encountered in format string")
    else (plainPart rest).map fun (cs, field) => (c :: cs, field)

/-- A field of a template. -/
structure Slot where
  /-- The number or word that names a value, and what follows it. -/
  name : List Char
  mark : Option Char
  form : List Char

/-- What names the value of a field, the character that ends it, and what follows that. A character
between brackets ends nothing. -/
def slotName (isBracketed : Bool) : List Char → Found (List Char × Option Char × List Char)
  | [] => .ok ([], none, [])
  | c :: rest =>
    if !isBracketed && c = opening then fault "unexpected '\x7b' in field name"
    else if !isBracketed && (c = closing || c = ':' || c = '!') then .ok ([], some c, rest)
    else (slotName (if isBracketed then c != ']' else c == '[') rest).map
      fun (name, stop) => (c :: name, stop)

/-- The form of a field at a depth of braces, and what follows the field. -/
def slotForm (depth : Nat) : List Char → Found (List Char × List Char)
  | [] => fault "unmatched '\x7b' in format spec"
  | c :: rest =>
    if c = closing && depth = 0 then .ok ([], rest)
    else (slotForm (if c = opening then depth + 1 else if c = closing then depth - 1 else depth)
      rest).map fun (form, rest) => (c :: form, rest)

/-- The field that a text begins with behind its brace, and what follows it. -/
def Slot.read (cs : List Char) : Found (Slot × List Char) := do
  let (name, stop, cs) ← slotName false cs
  let formed (mark : Option Char) (cs : List Char) : Found (Slot × List Char) :=
    (slotForm 0 cs).map fun (form, rest) => (⟨name, mark, form⟩, rest)
  match stop, cs with
  | none, _ => fault "expected '\x7d' before end of string"
  | some '!', [] => fault "end of string while looking for conversion specifier"
  | some '!', [c] => formed (some c) []
  | some '!', c :: d :: rest =>
    if d = closing then return (⟨name, some c, []⟩, rest)
    else if d = ':' then formed (some c) rest
    else fault "expected ':' after conversion specifier"
  | some ':', rest => formed none rest
  | some _, rest => return (⟨name, none, []⟩, rest)

/-- How the fields without a number are counted: not before one is met, and not beside fields with
numbers. -/
inductive Numbering where
  | undecided
  | automatic (next : Nat)
  | manual

/-- The number that digits spell; nothing for other characters or none at all. -/
def position? (cs : List Char) : Found (Option Nat) :=
  let digits := cs.map Text.asciiDigit
  if cs.isEmpty || !digits.all Char.isDigit then .ok none
  else
    let n := Nat.ofDigitChars 10 digits 0
    if Nat.pow 2 63 ≤ n then fault "Too many decimal digits in format string" else .ok (some n)

/-- What the fields of a template are filled with: values by number, unless there are only names,
and values by name. -/
structure Source where
  positions : Option (List Meaning)
  names : Meaning

/-- The value with a number. -/
def Source.at (s : Source) (i : Nat) : Found Meaning :=
  match s.positions with
  | none => fault "Format string contains positional fields"
  | some xs => xs[i]?.elim (.error .noIndex) .ok

/-- The value that a field begins with, and how fields are counted after it. -/
def Source.first (s : Source) (n : Numbering) (cs : List Char) : Found (Meaning × Numbering) := do
  let toAutomatic := "cannot switch from manual field specification to automatic field numbering"
  let toManual := "cannot switch from automatic field numbering to manual field specification"
  match cs, ← position? cs, n with
  | [], _, .manual => fault toAutomatic
  | [], _, .automatic i => return (← s.at i, .automatic (i + 1))
  | [], _, .undecided => return (← s.at 0, .automatic 1)
  | _, some _, .automatic _ => fault toManual
  | _, some i, _ => return (← s.at i, .manual)
  | cs, none, n => return (← s.names.entry (.ofText (String.ofList cs)), n)

/-- The characters that begin a further step to the value of a field. -/
def isStep (c : Char) : Bool :=
  c = '.' || c = '['

/-- The value that further steps lead to from a meaning. -/
def follow (fuel : Nat) (m : Meaning) (cs : List Char) : Found Meaning :=
  match fuel, cs with
  | 0, _ => .ok m
  | _, [] => .ok m
  | fuel + 1, '.' :: rest => do
    let name := rest.takeWhile (!isStep ·)
    if name.isEmpty then fault "Empty attribute in format string"
    else follow fuel (← m.member (String.ofList name)) (rest.drop name.length)
  | fuel + 1, '[' :: rest => do
    let name := rest.takeWhile (· ≠ ']')
    match rest.drop name.length with
    | [] => fault "Missing ']' in format string"
    | _ :: rest =>
      if name.isEmpty then fault "Empty attribute in format string"
      else
        let index := match ← position? name with
          | some i => .ofInt i
          | none => .ofText (String.ofList name)
        follow fuel (← m.entry index) rest
  | _, _ => fault "Only '.' or '[' may follow ']' in format field specifier"

/-- The value as it is shown after a mark. -/
def marked (mark : Option Char) (m : Meaning) : Found Meaning :=
  match mark with
  | none => .ok m
  | some c =>
    if c = 's' || c = 'r' || c = 'a' then
      (m.markedText? c).elim Meaning.unfit fun s => .ok (.ofText s)
    else fault ("Unknown conversion specifier " ++
      if 32 < c.toNat && c.toNat < 127 then "'" ++ String.singleton c ++ "'"
      else "\\x" ++ String.ofList (Nat.toDigits 16 c.toNat))

/-- The text of a template whose fields may be so many deep, with what its fields are filled with;
and how fields are counted after it. -/
def fillFrom (s : Source) (fuel depth : Nat) (n : Numbering) (cs : List Char) :
    Found (List Char × Numbering) :=
  match fuel with
  | 0 => Meaning.unfit
  | fuel + 1 => do
    if depth = 0 then fault "Max string recursion exceeded"
    else
      let (before, field) ← plainPart cs
      match field with
      | none => return (before, n)
      | some cs =>
        let (slot, cs) ← Slot.read cs
        let name := slot.name.takeWhile (!isStep ·)
        let (m, n) ← s.first n name
        let m ← follow slot.name.length m (slot.name.drop name.length)
        let m ← marked slot.mark m
        let (form, n) ← if slot.form.contains opening then fillFrom s fuel (depth - 1) n slot.form
          else pure (slot.form, n)
        let shown ← m.inForm (String.ofList form)
        let (rest, n) ← fillFrom s fuel depth n cs
        return (before ++ shown.toList ++ rest, n)

/-- How deep the fields of a template may be. -/
def maxDepth : Nat := 2

/-- The text of a template with what its fields are filled with. -/
def fill (s : Source) (cs : List Char) : Found Meaning :=
  (fillFrom s (cs.length + 1) maxDepth .undecided cs).map fun (cs, _) => .ofText (String.ofList cs)

end PagedTables.TypeText.Template
