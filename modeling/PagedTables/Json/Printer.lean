import PagedTables.Json.Basic

/-!
# JSON texts

Writes a JSON value in ASCII on one line: a space follows every comma and colon, characters
outside printable ASCII are escaped by their UTF-16 units, and doubles have their shortest text,
with the names `NaN`, `Infinity` and `-Infinity` for those that are no numbers.
-/
namespace PagedTables.Json

/-- The escape of one UTF-16 unit. -/
def escapeUnit (n : Nat) : List Char :=
  '\\' :: 'u' :: Text.paddedIn 16 4 n

/-- One character of a text. -/
def escapeChar (c : Char) : List Char :=
  if c = '"' || c = '\\' then ['\\', c]
  else if c = '\n' then ['\\', 'n']
  else if c = '\r' then ['\\', 'r']
  else if c = '\t' then ['\\', 't']
  else if c.toNat = 0x08 then ['\\', 'b']
  else if c.toNat = 0x0C then ['\\', 'f']
  else if 0x20 ≤ c.toNat && c.toNat ≤ 0x7E then [c]
  else if c.toNat < 0x10000 then escapeUnit c.toNat
  else
    let n := c.toNat - 0x10000
    escapeUnit (0xD800 + n / 0x400) ++ escapeUnit (0xDC00 + n % 0x400)

/-- A text between quotes. -/
def printText (s : String) : String :=
  String.ofList ('"' :: s.toList.flatMap escapeChar ++ ['"'])

/-- A double. -/
def printFloat : Binary64 → String
  | .nan _ => "NaN"
  | .infinite negative => if negative then "-Infinity" else "Infinity"
  | x => x.toText

mutual

/-- The text of a JSON value. -/
def print : Json → String
  | null => "null"
  | bool b => if b then "true" else "false"
  | int n => Text.ofInt n
  | float x => printFloat x
  | text s => printText s
  | array items => "[" ++ ", ".intercalate (printItems items) ++ "]"
  | object members => "\x7b" ++ ", ".intercalate (printMembers members) ++ "\x7d"

/-- The texts of the items of an array. -/
def printItems : List Json → List String
  | [] => []
  | item :: rest => print item :: printItems rest

/-- The texts of the members of an object. -/
def printMembers : List (String × Json) → List String
  | [] => []
  | (name, value) :: rest => (printText name ++ ": " ++ print value) :: printMembers rest

end

end PagedTables.Json
