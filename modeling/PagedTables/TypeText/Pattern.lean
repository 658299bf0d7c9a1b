import PagedTables.Text.Pattern
import PagedTables.Text.Quoted
import PagedTables.TypeText.Subscript

/-!
# Patterns and remainders

The remainder sign, which stands for the remainder of a division between numbers and fills in a
pattern behind a text or a string of bytes. Integers, texts and displays are written in full; where
a double would have to be written, only the type of the result is known.
-/
namespace PagedTables.TypeText.Meaning

/-- A value that more could be looked up in than a text has marks for. -/
def isLookup : Meaning → Bool
  | tuple _ => false
  | nothing => false
  | value (.bytes _) => true
  | value _ => false
  | named _ => false
  | object .. => false
  | details .. => false
  | method .. => false
  | _ => true

/-- A flaw of an evaluation, or nothing where the result is only known by its type. -/
abbrev Unread := Option Flaw

/-- The flaw that a fault of a pattern is. -/
def patternFlaw (fault : PatternFault) : Unread :=
  match fault.message? with
  | some message => some (.operand message)
  | none => match fault with
    | .space => some .tooLarge
    | .unshownLetter => some .overflow
    | _ => some .senseless

/-- The integer that is left of a number without its fraction. -/
def truncated (m : Meaning) : Except Unread Int :=
  match m.whole?, m with
  | some n, _ => .ok n
  | none, value (.float x) => match (Value.float x).toInteger with
    | .ok n => .ok n
    | .error .infinite => .error (some .overflow)
    | .error fault => .error (fault.message?.map .operand)
  | none, m => .error (if m.typeName = "float" then none else some .senseless)

/-- The character of a number, or the only one of a text. -/
def character (limit : Nat) (m : Meaning) : Except Unread (List Char) :=
  match m.whole?, m, m.asText?.map String.toList with
  | some n, _, _ =>
    if 0 ≤ n && n < limit then .ok [Char.ofNat n.toNat] else .error (some .overflow)
  | none, value (.bytes [b]), _ =>
    if limit = 256 then .ok [Char.ofNat b.toNat] else .error (some .senseless)
  | none, _, some [c] => if limit = 256 then .error (some .senseless) else .ok [c]
  | none, _, _ => .error (some .senseless)

/-- What a mark of a pattern writes for a meaning. -/
def writeMark (kind : PatternKind) (mark : PatternMark) (m : Meaning) :
    Except Unread (List Char) :=
  let shown (isDisplay : Bool) : Except Unread (List Char) :=
    (textOf? isDisplay m).elim (.error none) fun s => .ok s.toList
  let fitted (cs : Except Unread (List Char)) : Except Unread (List Char) :=
    cs.bind fun cs => (mark.fit cs).mapError patternFlaw
  let ofInt (n : Except Unread Int) : Except Unread (List Char) :=
    n.bind fun n => (mark.fitInt n).mapError patternFlaw
  match kind, mark.letter with
  | .text, 's' => fitted (shown false)
  | .text, 'r' => fitted (shown true)
  | _, 'r' => fitted ((shown true).map Text.asciiOnly)
  | _, 'a' => fitted ((shown true).map Text.asciiOnly)
  | kind, 'c' => fitted (m.character (if kind = .bytes then 256 else 0x110000))
  | _, letter =>
    if ['d', 'i', 'u'].contains letter then ofInt m.truncated
    else if ['o', 'x', 'X'].contains letter then
      ofInt (m.whole?.elim (.error (some .senseless)) .ok)
    else match letter, m with
      | 's', value (.bytes bs) => fitted (.ok (bs.map fun b => Char.ofNat b.toNat))
      | 'b', value (.bytes bs) => fitted (.ok (bs.map fun b => Char.ofNat b.toNat))
      | 's', _ => .error (some .senseless)
      | 'b', _ => .error (some .senseless)
      | _, m => .error (if m.isNumber && m.typeName ≠ "complex" then none else some .senseless)

/-- A pattern filled in with a meaning: with the elements of a tuple one after the other, and with
anything that more can be looked up in also by names. -/
def fill (kind : PatternKind) (cs : List Char) (right : Meaning) :
    Except Unread (List Char) :=
  let key (name : List Char) : Meaning := match kind with
    | .text => ofText (String.ofList name)
    | .bytes => value (.bytes (name.map fun c => UInt8.ofNat c.toNat))
  let filling : Filling Meaning Unread := {
    kind := kind
    fault := patternFlaw
    part? := if right.isLookup then
        some fun name => (entry right (key name)).mapError some
      else none
    integer? := whole?
    write := writeMark kind }
  filling.fill right.asArguments cs

/-- The result of a pattern, of which no more than the type may be known. -/
def filled (kind : PatternKind) (cs : Except Unread (List Char)) : Found Meaning :=
  match kind, cs with
  | .text, .ok cs => .ok (ofText (String.ofList cs))
  | .bytes, .ok cs => .ok (value (.bytes (cs.map fun c => UInt8.ofNat c.toNat)))
  | .text, .error none => .ok (unknown "str")
  | .bytes, .error none => .ok (unknown "bytes")
  | _, .error (some flaw) => .error flaw

/-- Remainders, and patterns filled in. -/
def remainder (left right : Meaning) : Found Meaning :=
  match left, left.asText? with
  | value (.bytes bs), _ =>
    filled .bytes (fill .bytes (bs.map fun b => Char.ofNat b.toNat) right)
  | _, some s => filled .text (fill .text s.toList right)
  | _, none => divideWhole Int.fmod (fun n d => (n, d)) left right

end PagedTables.TypeText.Meaning
