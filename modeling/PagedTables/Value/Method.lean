import PagedTables.Text.Bytes
import PagedTables.Text.Case
import PagedTables.Value.Arithmetic

/-!
# Methods of values

The methods of expressions that texts and strings of bytes have too: both cases, trimming, and the
questions for a beginning and an end. The questions may be asked of the part between two bounds,
and for several beginnings or ends in a tuple, of which the first that fits is the answer.
-/
namespace PagedTables.Value

/-- The methods that texts and strings of bytes have. -/
def sequenceMethods : List String :=
  ["lower", "upper", "strip", "startswith", "endswith"]

/-- The value has a method. -/
def hasMethod (name : String) (v : Value) : Bool :=
  match v with
  | bytes _ => sequenceMethods.contains name
  | v => v.asText?.isSome && sequenceMethods.contains name

section Sequences

variable {α : Type} [BEq α]

/-- Whether a part stands at the start, or else at the end, of what is between two bounds. -/
def standsAt (atStart : Bool) (xs part : List α) (start stop : Option Int) : Bool :=
  let size : Int := xs.length
  let shifted (i : Int) : Int := if i < 0 then max 0 (i + size) else i
  let first := shifted (start.getD 0)
  let last := min size (shifted (stop.getD size))
  let place := if atStart then first else last - part.length
  first + part.length ≤ last && part.isPrefixOf (xs.drop place.toNat)

/-- One of several parts stands where it is looked for; nothing if one before is no part. -/
def anyStands (read : Value → Option (List α)) (stands : List α → Bool) : List Value → Option Bool
  | [] => some false
  | v :: rest => (read v).bind fun part =>
    if stands part then some true else anyStands read stands rest

/-- A bound of a part, which may be left out by null. -/
def bound? : Value → Option (Option Int)
  | null => some none
  | v => v.wholeNumber?.map some

/-- The answer to the question for a beginning, or else for an end; nothing for arguments that do
not ask it. -/
def standing? (read : Value → Option (List α)) (atStart : Bool) (xs : List α)
    (arguments : List Value) : Option Value := do
  let (given, bounds) ← match arguments with
    | [v] => some (v, (none, none))
    | [v, start] => (bound? start).map fun start => (v, (start, none))
    | [v, start, stop] =>
      (bound? start).bind fun start => (bound? stop).map fun stop => (v, (start, stop))
    | _ => none
  let stands (part : List α) : Bool := standsAt atStart xs part bounds.1 bounds.2
  match given with
  | tuple parts => (anyStands read stands parts).map bool
  | v => (read v).map fun part => bool (stands part)

end Sequences

/-- The characters of a text. -/
def characters? (v : Value) : Option (List Char) :=
  v.asText?.map String.toList

/-- The bytes of a string of bytes. -/
def bytes? : Value → Option (List UInt8)
  | bytes bs => some bs
  | _ => none

/-- The result of a method of a text; nothing for arguments that do not fit. -/
def textMethod? (name : String) (s : String) (arguments : List Value) : Option Value :=
  let trimmed (p : Char → Bool) : Value := text (String.ofList (Text.trimWhile p s.toList))
  match name, arguments with
  | "lower", [] => some (text (Text.lower s))
  | "upper", [] => some (text (Text.upper s))
  | "strip", [] => some (trimmed Text.isBlank)
  | "strip", [null] => some (trimmed Text.isBlank)
  | "strip", [v] => v.characters?.map fun cs => trimmed cs.contains
  | "startswith", arguments => standing? characters? true s.toList arguments
  | "endswith", arguments => standing? characters? false s.toList arguments
  | _, _ => none

/-- The result of a method of a string of bytes; nothing for arguments that do not fit. -/
def bytesMethod? (name : String) (bs : List UInt8) (arguments : List Value) : Option Value :=
  match name, arguments with
  | "lower", [] => some (bytes (Bytes.lower bs))
  | "upper", [] => some (bytes (Bytes.upper bs))
  | "strip", [] => some (bytes (Bytes.trim bs))
  | "strip", [null] => some (bytes (Bytes.trim bs))
  | "strip", [v] => v.bytes?.map fun ends => bytes (Bytes.trimWhile ends.contains bs)
  | "startswith", arguments => standing? bytes? true bs arguments
  | "endswith", arguments => standing? bytes? false bs arguments
  | _, _ => none

/-- The result of a method; nothing for arguments that do not fit. -/
def method? (name : String) (v : Value) (arguments : List Value) : Option Value :=
  match v with
  | bytes bs => bytesMethod? name bs arguments
  | v => v.asText?.bind fun s => textMethod? name s arguments

end PagedTables.Value
