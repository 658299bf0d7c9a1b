import PagedTables.Text.Case
import PagedTables.Text.Identifier
import PagedTables.Text.Pieces
import PagedTables.Text.Printable
import PagedTables.TypeText.Argument
import PagedTables.TypeText.Template
import PagedTables.Value.Method

/-!
# Methods of texts

The results of the methods that texts have in type texts: changes of case, questions for kinds of
characters, padding, search, and cuts. Where the case or the kind of a character depends on more
than ASCII, no more than the type of a result may be known.
-/
namespace PagedTables.TypeText.Meaning

mutual

/-- The value that a meaning without types is. -/
def asValue? : Meaning → Option Value
  | nothing => some .null
  | value v => some v
  | tuple xs => (asValues? xs).map .tuple
  | _ => none

/-- The values that meanings without types are. -/
def asValues? : List Meaning → Option (List Value)
  | [] => some []
  | x :: xs => (asValue? x).bind fun v => (asValues? xs).map (v :: ·)

end

/-- The text of characters. -/
def ofChars (cs : List Char) : Meaning :=
  ofText (String.ofList cs)

/-- The text in the case that a method is named for. -/
def recased? (name : String) (cs : List Char) : Option Meaning :=
  let ascii (image : List Char) : Option Meaning :=
    some (if Text.isAscii cs then ofChars image else unknown "str")
  match name with
  | "lower" => some (ofText (Text.lower (String.ofList cs)))
  | "upper" => some (ofText (Text.upper (String.ofList cs)))
  | "casefold" => ascii (cs.map Char.toLower)
  | "swapcase" => ascii (cs.map Text.swapCase)
  | "title" => ascii (Text.titled false cs)
  | "capitalize" => ascii (Text.capitalized cs)
  | _ => none

/-- Whether the characters of a text are all of the kind that a method is named for. -/
def answered? (name : String) (cs : List Char) : Option Meaning :=
  let ascii (answer : Bool) : Option Meaning :=
    some (if Text.isAscii cs then ofBool answer else unknown "bool")
  match name with
  | "isascii" => some (ofBool (Text.isAscii cs))
  | "isidentifier" => some (ofBool (Text.isIdentifier cs))
  | "isprintable" => some (ofBool (cs.all Text.isPrintable))
  | "isspace" => some (ofBool (!cs.isEmpty && cs.all Text.isBlank))
  | "isalpha" => ascii (!cs.isEmpty && cs.all Char.isAlpha)
  | "isalnum" => ascii (!cs.isEmpty && cs.all Char.isAlphanum)
  | "isdecimal" => ascii (!cs.isEmpty && cs.all Char.isDigit)
  | "isdigit" => ascii (!cs.isEmpty && cs.all Char.isDigit)
  | "isnumeric" => ascii (!cs.isEmpty && cs.all Char.isDigit)
  | "islower" => ascii (cs.any Char.isLower && !cs.any Char.isUpper)
  | "isupper" => ascii (cs.any Char.isUpper && !cs.any Char.isLower)
  | "istitle" => ascii (cs.any Char.isAlpha && Text.titled false cs == cs)
  | _ => none

/-- The text in a width, with a character in front of it, behind it, or on both sides. -/
def padded? (name : String) (cs : List Char) (width : Int) (c : Char) : Option Meaning :=
  let gap := (width - cs.length).toNat
  let fill (n : Nat) : List Char := List.replicate n c
  let half := gap / 2 + if gap % 2 = 1 && width % 2 = 1 then 1 else 0
  if !(["center", "ljust", "rjust", "zfill"].contains name) then none
  else if maxRepeated < gap then some (unknown "str")
  else match name, cs with
    | "center", cs => some (ofChars (fill half ++ cs ++ fill (gap - half)))
    | "ljust", cs => some (ofChars (cs ++ fill gap))
    | "rjust", cs => some (ofChars (fill gap ++ cs))
    | _, cs =>
      let start := cs.take (if cs.head? = some '-' || cs.head? = some '+' then 1 else 0)
      some (ofChars (start ++ List.replicate gap '0' ++ cs.drop start.length))

/-- What a method finds out about the occurrences of a part between two bounds. -/
def searched? (name : String) (cs part : List Char) (start stop : Option Int) : Option Meaning :=
  let size : Int := cs.length
  let shifted (i : Int) : Int := if i < 0 then max 0 (i + size) else i
  let first := shifted (start.getD 0)
  let last := min size (shifted (stop.getD size))
  let inner := (cs.drop first.toNat).take (last - first).toNat
  let place (found : Option (List Char × List Char)) : Option Int :=
    if last < first then none else found.map fun (before, _) => first + before.length
  match name with
  | "count" => some (ofInt (if last < first then 0 else Text.occurrences part inner))
  | "find" => some (ofInt ((place (Text.around? part inner)).getD (-1)))
  | "rfind" => some (ofInt ((place (Text.aroundLast? part inner)).getD (-1)))
  | "index" => (place (Text.around? part inner)).map ofInt
  | "rindex" => (place (Text.aroundLast? part inner)).map ofInt
  | _ => none

/-- A text around an occurrence of a separator, if there is one. -/
def parted (isLast : Bool) (cs separator : List Char) : Found Meaning :=
  if separator.isEmpty then .error (.operand "empty separator")
  else
    let found := if isLast then Text.aroundLast? separator cs else Text.around? separator cs
    let parts := match found with
      | some (before, after) => [before, separator, after]
      | none => if isLast then [[], [], cs] else [cs, [], []]
    .ok (tuple (parts.map ofChars))

/-- The pieces of a text between separators, or between blanks, with a number of cuts at most. -/
def cut (isLast : Bool) (cs : List Char) (separator : Option (List Char)) (count : Int) :
    Found Meaning :=
  let count := if count < 0 then cs.length else min count.toNat cs.length
  let texts (pieces : List (List Char)) : Found Meaning := .ok (list (pieces.map ofChars))
  match separator with
  | none => texts (if isLast then Text.fromEnd (Text.words count) cs else Text.words count cs)
  | some separator =>
    if separator.isEmpty then .error (.operand "empty separator")
    else texts (if isLast then Text.fromEnd (Text.pieces separator.reverse count) cs
      else Text.pieces separator count cs)

/-- The text without characters at one end or both. -/
def trimmed? (name : String) (p : Char → Bool) (cs : List Char) : Option Meaning :=
  match name with
  | "strip" => some (ofChars (Text.trimWhile p cs))
  | "lstrip" => some (ofChars (cs.dropWhile p))
  | "rstrip" => some (ofChars (Text.dropEndWhile p cs))
  | _ => none

/-- The text with a part of it changed, by parts that are given. -/
def changed? (name : String) (cs : List Char) (parts : List (List Char)) (count : Int) :
    Option Meaning :=
  match name, parts with
  | "removeprefix", [part] =>
    some (ofChars (if part.isPrefixOf cs then cs.drop part.length else cs))
  | "removesuffix", [part] => some (ofChars
      (if part.reverse.isPrefixOf cs.reverse then cs.take (cs.length - part.length) else cs))
  | "replace", [part, other] =>
    let count := if count < 0 then cs.length + 1 else min count.toNat (cs.length + 1)
    some (if maxRepeated < count * other.length then unknown "str"
      else ofChars (Text.replace part other count cs))
  | _, _ => none

/-- The methods that look for a part. -/
def searchMethods : List String :=
  ["count", "find", "rfind", "index", "rindex"]

/-- The result of a method of a text for values. -/
def ofTextMethod (name : String) (cs : List Char) (arguments : List Value) : Found Meaning :=
  let known (m : Option Meaning) : Found Meaning := m.elim unfit .ok
  let search (part : Value) (start stop : Option Int) : Found Meaning :=
    match part.characters? with
    | none => unfit
    | some part =>
      if name = "index" || name = "rindex" then
        (searched? name cs part start stop).elim (.error (.operand "substring not found")) .ok
      else known (searched? name cs part start stop)
  let searches := searchMethods.contains name
  match name, arguments with
  | "startswith", arguments =>
    known ((Value.standing? Value.characters? true cs arguments).map .value)
  | "endswith", arguments =>
    known ((Value.standing? Value.characters? false cs arguments).map .value)
  | "partition", [v] => v.characters?.elim unfit (parted false cs)
  | "rpartition", [v] => v.characters?.elim unfit (parted true cs)
  | "split", [.null, n] => n.wholeNumber?.elim unfit (cut false cs none)
  | "rsplit", [.null, n] => n.wholeNumber?.elim unfit (cut true cs none)
  | "split", [v, n] => match v.characters?, n.wholeNumber? with
    | some separator, some n => cut false cs (some separator) n
    | _, _ => unfit
  | "rsplit", [v, n] => match v.characters?, n.wholeNumber? with
    | some separator, some n => cut true cs (some separator) n
    | _, _ => unfit
  | "splitlines", [v] => v.wholeNumber?.elim unfit fun n =>
    .ok (list ((Text.linesAfter (n ≠ 0) [] cs).map ofChars))
  | "expandtabs", [v] => v.wholeNumber?.elim unfit fun _ =>
    .ok (if cs.contains '\t' then unknown "str" else ofChars cs)
  | "encode", [v, w] =>
    if v.asText?.isSome && w.asText?.isSome then
      .ok (value (.bytes (String.ofList cs).toUTF8.toList))
    else unfit
  | "replace", [part, other, n] => match part.characters?, other.characters?, n.wholeNumber? with
    | some part, some other, some n => known (changed? name cs [part, other] n)
    | _, _, _ => unfit
  | name, [] =>
    known (recased? name cs <|> answered? name cs <|> trimmed? name Text.isBlank cs)
  | name, [.null] => known (trimmed? name Text.isBlank cs)
  | name, [v] =>
    if searches then search v none none
    else match v.characters?, v.wholeNumber? with
      | some part, _ =>
        known (trimmed? name part.contains cs <|> changed? name cs [part] (-1))
      | none, some width => known (padded? name cs width ' ')
      | none, none => unfit
  | name, [v, w] =>
    if searches then (Value.bound? w).elim unfit fun start => search v start none
    else match v.characters?, v.wholeNumber?, w.characters? with
      | some part, _, some other => known (changed? name cs [part, other] (-1))
      | none, some width, some [c] =>
        if name = "zfill" then unfit else known (padded? name cs width c)
      | _, _, _ => unfit
  | _, [v, w, x] => match searches, Value.bound? w, Value.bound? x with
    | true, some start, some stop => search v start stop
    | _, _, _ => unfit
  | _, _ => unfit

/-- The text with each character replaced by what its number gives in a collection: a text, a
character by its number, or nothing. A number that gives nothing is kept. -/
def translated (cs : List Char) (m : Meaning) : Found Meaning := do
  let parts ← cs.mapM fun c => do
    match m.entry (ofInt c.toNat) with
    | .error .noKey => return [c]
    | .error .noIndex => return [c]
    | .error flaw => throw flaw
    | .ok nothing => return []
    | .ok x => match x.asText?, x.whole? with
      | some s, _ => return s.toList
      | none, some n =>
        if 0 ≤ n && n < 0x110000 then return [Char.ofNat n.toNat]
        else throw (.operand "character mapping must be in range(0x110000)")
      | none, none => throw .senseless
  return ofChars parts.flatten

/-- The parameters of methods of texts, with their defaults, where the arguments may be given by
name. -/
def textParameters : List (String × List (String × Meaning)) :=
  let cuts := [("sep", nothing), ("maxsplit", ofInt (-1))]
  [("split", cuts), ("rsplit", cuts), ("splitlines", [("keepends", ofBool false)]),
    ("expandtabs", [("tabsize", ofInt 8)]),
    ("encode", [("encoding", ofText "utf-8"), ("errors", ofText "strict")])]

/-- The result of a method of a text. -/
def applyToText (cs : List Char) (name : String) (arguments : List Meaning) (named : Bindings) :
    Found Meaning := do
  match textParameters.lookup name, name, arguments, named with
  | some parameters, _, _, _ =>
    let bound ← bindArguments arguments named
      (parameters.map fun (n, default) => (n, .byEither, some default))
    (asValues? (bound.map Prod.snd)).elim unfit (ofTextMethod name cs)
  | none, "format", xs, named =>
    Template.fill ⟨some xs, dict (named.map fun (n, x) => (ofText n, x))⟩ cs
  | none, "format_map", [m], [] => Template.fill ⟨none, m⟩ cs
  | none, "join", [m], [] => do
    let pieces ← (← m.elements).mapM fun m => (m.asText?.map String.toList).elim unfit .ok
    return ofChars (cs.intercalate pieces)
  | none, "translate", [m], [] => translated cs m
  | none, name, arguments, [] => (asValues? arguments).elim unfit (ofTextMethod name cs)
  | none, _, _, _ :: _ => unfit

end PagedTables.TypeText.Meaning
