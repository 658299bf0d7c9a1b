import PagedTables.Json.Basic

/-!
# Reading JSON

The reader of JSON texts. It accepts the grammar of JSON, and the names `NaN`, `Infinity` and
`-Infinity` as numbers; a number with a point or an exponent is a double and any other one an
integer. It refuses control characters inside texts, zeros in front of a number, and a byte order
mark in front of the value. An integer of too many digits is refused as well, although it belongs to
the grammar.

The characters of texts are scalar values, so that there is none for a surrogate that an escape
spells without the other one of a pair. Such a surrogate is replaced.

The recursion is bounded by a measure of nesting that starts above twice the length of the text,
which no text exhausts: every second step consumes a character.
-/
namespace PagedTables.Json

/-- White space between tokens. -/
def isSpace (c : Char) : Bool :=
  c = ' ' || c = '\t' || c = '\n' || c = '\r'

/-- The characters from the next token on. -/
def skipSpace (cs : List Char) : List Char :=
  cs.dropWhile isSpace

/-- The value of four hexadecimal digits. -/
def readUnit? (a b c d : Char) : Option Nat :=
  Text.readHex? [a, b, c, d]

/-- The character of a UTF-16 unit; a surrogate alone stands for none and is replaced. -/
def unitChar (n : Nat) : Char :=
  if 0xD800 ≤ n && n ≤ 0xDFFF then Char.ofNat 0xFFFD else Char.ofNat n

/-- The character that a letter after a backslash stands for. -/
def simpleEscape? (c : Char) : Option Char :=
  match c with
  | '"' => some '"'
  | '\\' => some '\\'
  | '/' => some '/'
  | 'b' => some (Char.ofNat 0x08)
  | 'f' => some (Char.ofNat 0x0C)
  | 'n' => some '\n'
  | 'r' => some '\r'
  | 't' => some '\t'
  | _ => none

/-- The characters of a text after its opening quote, and what follows the closing one. -/
def readChars? : List Char → Option (List Char × List Char)
  | '"' :: rest => some ([], rest)
  | '\\' :: 'u' :: a :: b :: c :: d :: '\\' :: 'u' :: e :: f :: g :: h :: rest => do
    let high ← readUnit? a b c d
    match readUnit? e f g h with
    | some low =>
      if 0xD800 ≤ high && high ≤ 0xDBFF && 0xDC00 ≤ low && low ≤ 0xDFFF then
        let n := 0x10000 + (high - 0xD800) * 0x400 + (low - 0xDC00)
        (readChars? rest).map fun (cs, rest) => (Char.ofNat n :: cs, rest)
      else
        (readChars? ('\\' :: 'u' :: e :: f :: g :: h :: rest)).map fun (cs, rest) =>
          (unitChar high :: cs, rest)
    | none => none
  | '\\' :: 'u' :: a :: b :: c :: d :: rest => do
    let n ← readUnit? a b c d
    (readChars? rest).map fun (cs, rest) => (unitChar n :: cs, rest)
  | '\\' :: c :: rest => do
    let c ← simpleEscape? c
    (readChars? rest).map fun (cs, rest) => (c :: cs, rest)
  | c :: rest =>
    if c.toNat < 0x20 || c = '\\' then none
    else (readChars? rest).map fun (cs, rest) => (c :: cs, rest)
  | [] => none

/-- The fraction of a number, a point and at least one digit, and what follows it. -/
def takeFraction (cs : List Char) : List Char × List Char :=
  match cs with
  | '.' :: rest =>
    if (rest.takeWhile Char.isDigit).isEmpty then ([], cs)
    else (rest.takeWhile Char.isDigit, rest.dropWhile Char.isDigit)
  | _ => ([], cs)

/-- The exponent of a number and what follows it. -/
def takeExponent (cs : List Char) : Option Int × List Char :=
  match cs with
  | e :: rest =>
    let (negative, digits) := Text.takeSign rest
    if (e = 'e' || e = 'E') && !(digits.takeWhile Char.isDigit).isEmpty then
      let n : Int := Nat.ofDigitChars 10 (digits.takeWhile Char.isDigit) 0
      (some (if negative then -n else n), digits.dropWhile Char.isDigit)
    else (none, cs)
  | [] => (none, cs)

/-- Why a text is not read as a value. -/
inductive Flaw where
  | malformed
  /-- An integer of the text has too many digits. -/
  | longInteger
  deriving DecidableEq

/-- A leading minus and what follows it. -/
def takeMinus : List Char → Bool × List Char
  | '-' :: rest => (true, rest)
  | cs => (false, cs)

/-- The number at the start of the characters, and what follows it. -/
def readNumber (cs : List Char) : Except Flaw (Json × List Char) :=
  let (negative, cs) := takeMinus cs
  let digits := cs.takeWhile Char.isDigit
  let whole := if digits.head? = some '0' then ['0'] else digits
  let rest := cs.drop whole.length
  if whole.isEmpty then .error .malformed
  else
    let (fraction, rest) := takeFraction rest
    let (power, rest) := takeExponent rest
    if fraction.isEmpty && power.isNone then
      let n : Int := Nat.ofDigitChars 10 whole 0
      if whole.length > Text.maxIntegerDigits then .error .longInteger
      else .ok (int (if negative then -n else n), rest)
    else
      .ok (float (Binary64.ofParts negative whole fraction (power.getD 0)), rest)

/-- The text after its opening quote, and what follows the closing one. -/
def readText (cs : List Char) : Except Flaw (String × List Char) :=
  (readChars? cs).elim (.error .malformed) fun (s, rest) => .ok (String.ofList s, rest)

/-- What follows `word` at the start of the characters. -/
def afterWord? (word : String) (cs : List Char) : Option (List Char) :=
  if word.toList.isPrefixOf cs then some (cs.drop word.length) else none

/-- The words that are values. -/
def wordValues : List (String × Json) :=
  [("null", null), ("true", bool true), ("false", bool false),
    ("NaN", float (.nan Binary64.textOrigin)), ("Infinity", float (.infinite false)),
    ("-Infinity", float (.infinite true))]

mutual

/-- The value at the start of the characters, and what follows it. -/
def readValue (fuel : Nat) (cs : List Char) : Except Flaw (Json × List Char) :=
  match fuel with
  | 0 => .error .malformed
  | fuel + 1 =>
    match cs with
    | '"' :: rest => (readText rest).map fun (s, rest) => (text s, rest)
    | '[' :: rest =>
      match skipSpace rest with
      | ']' :: rest => .ok (array [], rest)
      | rest => (readItems fuel rest).map fun (items, rest) => (array items, rest)
    | '\x7b' :: rest =>
      match skipSpace rest with
      | '\x7d' :: rest => .ok (object [], rest)
      | rest => (readMembers fuel rest []).map fun (members, rest) => (object members, rest)
    | cs =>
      match wordValues.findSome? fun (word, value) => (afterWord? word cs).map (value, ·) with
      | some result => .ok result
      | none => readNumber cs

/-- The items of an array from one on, and what follows the closing bracket. -/
def readItems (fuel : Nat) (cs : List Char) : Except Flaw (List Json × List Char) :=
  match fuel with
  | 0 => .error .malformed
  | fuel + 1 => do
    let (item, rest) ← readValue fuel cs
    match skipSpace rest with
    | ',' :: rest =>
      let (items, rest) ← readItems fuel (skipSpace rest)
      return (item :: items, rest)
    | ']' :: rest => return ([item], rest)
    | _ => .error .malformed

/-- The members of an object from one on, after `members`, and what follows the closing brace. -/
def readMembers (fuel : Nat) (cs : List Char) (members : JsonObject) :
    Except Flaw (JsonObject × List Char) :=
  match fuel with
  | 0 => .error .malformed
  | fuel + 1 =>
    match cs with
    | '"' :: rest => do
      let (name, rest) ← readText rest
      match skipSpace rest with
      | ':' :: rest =>
        let (value, rest) ← readValue fuel (skipSpace rest)
        let members := setMember name value members
        match skipSpace rest with
        | ',' :: rest => readMembers fuel (skipSpace rest) members
        | '\x7d' :: rest => return (members, rest)
        | _ => .error .malformed
      | _ => .error .malformed
    | _ => .error .malformed

end

/-- The value that a text spells. -/
def read (s : String) : Except Flaw Json := do
  let cs := skipSpace s.toList
  let (value, rest) ← readValue (2 * cs.length + 2) cs
  if (skipSpace rest).isEmpty then .ok value else .error .malformed

/-- The value that a text spells, if it is read. -/
def parse? (s : String) : Option Json :=
  (read s).toOption

end PagedTables.Json
