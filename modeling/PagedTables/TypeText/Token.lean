import PagedTables.Number.Shortest
import PagedTables.Text.Identifier
import PagedTables.Text.Split

/-!
# Tokens of type texts

A field may be declared with a text that spells its type. Such a text is an expression on one
line: names, numbers, quoted texts, signs and brackets, with blanks and a comment between them.
Within brackets it may go over several lines, and blank lines may stand before and after it; but
nothing may stand before the expression on its own line.

`tokens?` cuts a text into its tokens. It gives nothing for a text that has none, such as one with
an open quote, a number that runs into a name, or brackets that do not match in number.
-/
namespace PagedTables.TypeText

/-- A part of a quoted text: characters as they are, or an expression whose text is put in. -/
inductive Piece where
  | plain (s : String)
  /-- The expression, the mark of how its value is displayed, and the parts of the text that asks
  for a form of it. -/
  | field (expression : List Char) (mark : Option Char) (form : List Piece)

/-- A token. -/
inductive Token where
  | name (text : String)
  /-- A word that is part of the grammar. -/
  | word (text : String)
  | int (n : Nat)
  | float (x : Binary64)
  /-- A multiple of the imaginary unit. -/
  | imaginary
  | text (pieces : List Piece)
  | bytes (content : List UInt8)
  | sign (text : String)

/-- The words that name nothing. -/
def words : List String :=
  ["False", "None", "True", "and", "as", "assert", "async", "await", "break", "class", "continue",
    "def", "del", "elif", "else", "except", "finally", "for", "from", "global", "if", "import",
    "in", "is", "lambda", "nonlocal", "not", "or", "pass", "raise", "return", "try", "while",
    "with", "yield"]

/-- The signs, each before those that it starts with. -/
def signs : List String :=
  ["**=", "//=", "<<=", ">>=", "...", "**", "//", "<<", ">>", "<=", ">=", "==", "!=", "->", ":=",
    "+=", "-=", "*=", "/=", "%=", "&=", "|=", "^=", "@=", "%", "&", "(", ")", "*", "+", ",", "-",
    ".", "/", ":", ";", "<", "=", ">", "@", "[", "]", "^", "\x7b", "|", "\x7d", "~"]

/-- A character that tokens may be kept apart with. -/
def isGap (c : Char) : Bool :=
  c = ' ' || c = '\t' || c = '\x0c'

/-- A character that is taken into a name or number, whether it may stand there or not. -/
def isWordPart (c : Char) : Bool :=
  c.isAlphanum || c = '_' || 0x80 ≤ c.toNat

/-- The text with one newline character at the end of each line. -/
def unifyLines : List Char → List Char
  | [] => []
  | '\r' :: '\n' :: rest => '\n' :: unifyLines rest
  | '\r' :: rest => '\n' :: unifyLines rest
  | c :: rest => c :: unifyLines rest

/-- The text from its expression on, which starts in the first column of its line. -/
def skipLeading (inComment : Bool) (column : Nat) : List Char → Option (List Char)
  | [] => none
  | '\n' :: rest => skipLeading false 0 rest
  | c :: rest =>
    if inComment then skipLeading true column rest
    else if c = '#' then skipLeading true column rest
    else if c = '\x0c' then skipLeading false 0 rest
    else if c = ' ' || c = '\t' then skipLeading false (column + 1) rest
    else if c = '\\' then
      match rest with
      | '\n' :: rest => skipLeading false column rest
      | _ => none
    else if column = 0 then some (c :: rest)
    else none

/-- There is nothing but gaps and comments in the lines. -/
def isEmptyEnd (cs : List Char) : Bool :=
  (Text.splitAt '\n' cs).all fun line =>
    match line.dropWhile isGap with
    | [] => true
    | c :: _ => c = '#'

/-! ## Numbers -/

/-- A number ends here: no character of a word follows, unless it starts a word of the grammar. -/
def isNumberEnd (cs : List Char) : Bool :=
  !(cs.head?.any isWordPart) ||
    ["and", "else", "for", "if", "in", "is", "or", "not"].any fun w => w.toList.isPrefixOf cs

/-- Digits with single underscores between them, which are left out, and what follows. -/
def takeDigits? (isDigit : Char → Bool) (cs : List Char) : Option (List Char × List Char) :=
  let part := cs.takeWhile fun c => isDigit c || c = '_'
  let isApart := !(part.zip (part.drop 1)).any fun (a, b) => a = '_' && b = '_'
  if part.head?.any isDigit && part.getLast?.any isDigit && isApart then
    some (part.filter (· ≠ '_'), cs.drop part.length)
  else none

/-- A whole number in a base other than ten, after the two characters that announce the base. -/
def readBased? (base : Nat) (isDigit : Char → Bool) (cs : List Char) :
    Option (Token × List Char) := do
  let (digits, rest) ← takeDigits? isDigit (if cs.head? = some '_' then cs.drop 1 else cs)
  let n := digits.foldl (fun n c => base * n + (Text.hexValue? c).getD 0) 0
  if isNumberEnd rest then some (.int n, rest) else none

/-- The fraction of a number with its point, if there is one, and what follows. -/
def takeFraction? (cs : List Char) : Option (List Char × List Char) :=
  match cs with
  | '.' :: rest =>
    if rest.head?.any Char.isDigit then
      (takeDigits? Char.isDigit rest).map fun (digits, rest) => ('.' :: digits, rest)
    else some (['.'], rest)
  | cs => some ([], cs)

/-- The exponent of a number with its letter, if there is one, and what follows. -/
def takeExponent? (cs : List Char) : Option (List Char × List Char) :=
  match cs with
  | [] => some ([], [])
  | c :: rest =>
    if c = 'e' || c = 'E' then
      let (sign, digits) := match rest with
        | '+' :: digits => (['+'], digits)
        | '-' :: digits => (['-'], digits)
        | digits => ([], digits)
      if digits.head?.any Char.isDigit then
        (takeDigits? Char.isDigit digits).map fun (digits, rest) =>
          (c :: sign ++ digits, rest)
      else if sign.isEmpty then some ([], cs)
      else none
    else some ([], cs)

/-- A number in base ten at the start of the characters. -/
def readDecimal? (cs : List Char) : Option (Token × List Char) := do
  let (whole, rest) ←
    if cs.head? = some '.' then some ([], cs) else takeDigits? Char.isDigit cs
  let (fraction, rest) ← takeFraction? rest
  let (exponent, rest) ← takeExponent? rest
  let (isImaginary, rest) := match rest with
    | 'j' :: rest => (true, rest)
    | 'J' :: rest => (true, rest)
    | rest => (false, rest)
  if !isNumberEnd rest then none
  else if isImaginary then some (.imaginary, rest)
  else if fraction.isEmpty && exponent.isEmpty then
    if whole.head? = some '0' && whole.any (· ≠ '0') then none
    else if Text.maxIntegerDigits < whole.length then none
    else some (.int (Nat.ofDigitChars 10 whole 0), rest)
  else
    let x ← Binary64.ofText? (String.ofList (whole ++ fraction ++ exponent))
    some (.float x, rest)

/-- A number at the start of the characters. -/
def readNumber? (cs : List Char) : Option (Token × List Char) :=
  let isBinary (c : Char) : Bool := c = '0' || c = '1'
  let isOctal (c : Char) : Bool := '0' ≤ c && c ≤ '7'
  match cs with
  | '0' :: c :: rest =>
    if c = 'x' || c = 'X' then readBased? 16 (fun c => (Text.hexValue? c).isSome) rest
    else if c = 'o' || c = 'O' then readBased? 8 isOctal rest
    else if c = 'b' || c = 'B' then readBased? 2 isBinary rest
    else readDecimal? cs
  | cs => readDecimal? cs

/-! ## Quoted texts -/

/-- The characters up to the closing quotes, with every escape as it stands, and what follows. -/
def takeQuoted? (quotes : List Char) (cs : List Char) : Option (List Char × List Char) :=
  if quotes.isPrefixOf cs then some ([], cs.drop quotes.length)
  else match cs with
    | [] => none
    | '\\' :: c :: rest =>
      (takeQuoted? quotes rest).map fun (body, rest) => ('\\' :: c :: body, rest)
    | c :: rest =>
      if c = '\n' && quotes.length = 1 then none
      else (takeQuoted? quotes rest).map fun (body, rest) => (c :: body, rest)

/-- The character that an escape of one letter stands for. -/
def escapedChar? (c : Char) : Option Char :=
  match c with
  | '\\' => some '\\'
  | '\'' => some '\''
  | '"' => some '"'
  | 'a' => some '\x07'
  | 'b' => some '\x08'
  | 'f' => some '\x0c'
  | 'n' => some '\n'
  | 'r' => some '\r'
  | 't' => some '\t'
  | 'v' => some '\x0b'
  | _ => none

/-- How many hexadecimal digits follow the letter of an escape by code point. -/
def escapeWidth? (inBytes : Bool) (c : Char) : Option Nat :=
  if c = 'x' then some 2
  else if inBytes then none
  else if c = 'u' then some 4
  else if c = 'U' then some 8
  else none

/-- The characters with each escape replaced by what it stands for; unknown ones stay. -/
def unescape? (inBytes : Bool) (fuel : Nat) (cs : List Char) : Option (List Char) :=
  match fuel with
  | 0 => none
  | fuel + 1 =>
    match cs with
    | [] => some []
    | '\\' :: '\n' :: rest => unescape? inBytes fuel rest
    | '\\' :: c :: rest =>
      let octal := ((c :: rest).take 3).takeWhile fun c => '0' ≤ c && c ≤ '7'
      if !octal.isEmpty then
        let n := octal.foldl (fun n c => 8 * n + (c.toNat - 48)) 0
        (unescape? inBytes fuel ((c :: rest).drop octal.length)).map
          (Char.ofNat (if inBytes then n % 256 else n) :: ·)
      else match escapedChar? c, escapeWidth? inBytes c with
        | some e, _ => (unescape? inBytes fuel rest).map (e :: ·)
        | none, some width => do
          let digits := rest.take width
          let n ← if digits.length = width then Text.readHex? digits else none
          if 0x110000 ≤ n then none
          let rest ← unescape? inBytes fuel (rest.drop width)
          some ((if n.isValidChar then Char.ofNat n else '\ufffd') :: rest)
        | none, none =>
          if c = 'N' && !inBytes then none
          else (unescape? inBytes fuel rest).map fun rest => '\\' :: c :: rest
    | c :: rest => (unescape? inBytes fuel rest).map (c :: ·)

/-- The characters of a body, with escapes replaced unless the text is a raw one. -/
def decodeBody? (isRaw inBytes : Bool) (body : List Char) : Option (List Char) :=
  if isRaw then some body else unescape? inBytes (body.length + 1) body

/-- The expression of a field up to the sign that ends it, and what follows from that sign on. -/
def takeField? (depth : Nat) (quotes : List Char) (fuel : Nat) (cs : List Char) :
    Option (List Char × List Char) :=
  match fuel, cs with
  | 0, _ => none
  | _, [] => none
  | fuel + 1, c :: rest =>
    let more (depth : Nat) (quotes : List Char) (width : Nat) : Option (List Char × List Char) :=
      (takeField? depth quotes fuel (cs.drop width)).map fun (e, rest) => (cs.take width ++ e, rest)
    if c = '\\' then none
    else if !quotes.isEmpty then
      if quotes.isPrefixOf cs then more depth [] quotes.length else more depth quotes 1
    else if c = '#' then none
    else if c = '\'' || c = '"' then
      if [c, c, c].isPrefixOf cs then more depth [c, c, c] 3 else more depth [c] 1
    else if c = '(' || c = '[' || c = '\x7b' then more (depth + 1) [] 1
    else if 0 < depth then
      more (if c = ')' || c = ']' || c = '\x7d' then depth - 1 else depth) [] 1
    else if (['!', '=', '<', '>'].contains c) && rest.head? = some '=' then more 0 [] 2
    else if ['\x7d', ':', '!', '='].contains c then some ([], cs)
    else more 0 [] 1

mutual

/-- A field after its opening brace, and what follows the closing one. A field in the form of a
field has no field in its own form. With a sign for it the text of the expression stands before
its value. -/
def readField? (isRaw : Bool) (level fuel : Nat) (cs : List Char) :
    Option (List Piece × List Char) :=
  match fuel with
  | 0 => none
  | fuel + 1 => do
    if 2 ≤ level then none
    let (expression, rest) ← takeField? 0 [] (cs.length + 1) cs
    if (expression.filter fun c => !isGap c && c ≠ '\n').isEmpty then none
    let (before, rest) := match rest with
      | '=' :: rest =>
        let gap := rest.takeWhile fun c => isGap c || c = '\n' || c = '\x0b'
        (expression ++ '=' :: gap, rest.drop gap.length)
      | rest => ([], rest)
    let (mark, rest) ← match rest with
      | '!' :: c :: rest => if c = 'r' || c = 's' || c = 'a' then some (some c, rest) else none
      | rest => some (none, rest)
    match rest with
    | '\x7d' :: rest =>
      let mark := if before.isEmpty then mark else mark <|> some 'r'
      return ([.plain (String.ofList before), .field expression mark []], rest)
    | ':' :: rest =>
      let (form, rest) ← readForm? isRaw (level + 1) fuel [] rest
      return ([.plain (String.ofList before), .field expression mark form], rest)
    | _ => none

/-- The parts of the form of a field, and what follows the closing brace of the field. -/
def readForm? (isRaw : Bool) (level fuel : Nat) (plain cs : List Char) :
    Option (List Piece × List Char) :=
  match fuel with
  | 0 => none
  | fuel + 1 =>
    let piece : Option Piece :=
      (decodeBody? isRaw false plain.reverse).map fun cs => .plain (String.ofList cs)
    match cs with
    | [] => none
    | '\x7d' :: rest => piece.map fun p => ([p], rest)
    | '\x7b' :: rest => do
      let p ← piece
      let (field, rest) ← readField? isRaw level fuel rest
      let (pieces, rest) ← readForm? isRaw level fuel [] rest
      return (p :: field ++ pieces, rest)
    | '\\' :: c :: rest =>
      if isRaw || c = '\x7b' || c = '\x7d' then
        readForm? isRaw level fuel ('\\' :: plain) (c :: rest)
      else readForm? isRaw level fuel (c :: '\\' :: plain) rest
    | c :: rest => readForm? isRaw level fuel (c :: plain) rest

end

/-- The parts of a text with fields; a brace that is text is written twice. -/
def readPieces? (isRaw : Bool) (fuel : Nat) (plain : List Char) (cs : List Char) :
    Option (List Piece) :=
  match fuel with
  | 0 => none
  | fuel + 1 =>
    let piece : Option Piece :=
      (decodeBody? isRaw false plain.reverse).map fun cs => .plain (String.ofList cs)
    match cs with
    | [] => piece.map fun p => [p]
    | '\x7b' :: '\x7b' :: rest => readPieces? isRaw fuel ('\x7b' :: plain) rest
    | '\x7d' :: '\x7d' :: rest => readPieces? isRaw fuel ('\x7d' :: plain) rest
    | '\x7d' :: _ => none
    | '\x7b' :: rest => do
      let p ← piece
      let (field, rest) ← readField? isRaw 0 (rest.length + 1) rest
      return p :: field ++ (← readPieces? isRaw fuel [] rest)
    | '\\' :: c :: rest =>
      if isRaw || c = '\x7b' || c = '\x7d' then readPieces? isRaw fuel ('\\' :: plain) (c :: rest)
      else readPieces? isRaw fuel (c :: '\\' :: plain) rest
    | c :: rest => readPieces? isRaw fuel (c :: plain) rest

/-- The letters before the quotes of a text, in lower case, if the characters start with a text. -/
def quoteLetters? (cs : List Char) : Option (List Char) :=
  let letters := cs.takeWhile Char.isAlpha
  let isQuote (c : Char) : Bool := c = '\'' || c = '"'
  let known := ["", "b", "u", "r", "f", "br", "rb", "fr", "rf"].map String.toList
  if known.contains (letters.map Char.toLower) && ((cs.drop letters.length).head?).any isQuote then
    some (letters.map Char.toLower)
  else none

/-- A quoted text after its letters. -/
def readQuoted? (letters cs : List Char) : Option (Token × List Char) := do
  let quote ← cs.head?
  let triple := [quote, quote, quote]
  let quotes := if triple.isPrefixOf cs then triple else [quote]
  let (body, rest) ← takeQuoted? quotes (cs.drop quotes.length)
  let isRaw := letters.contains 'r'
  if letters.contains 'b' then
    if body.any fun c => 0x80 ≤ c.toNat then none
    let content ← decodeBody? isRaw true body
    some (.bytes (content.map fun c => UInt8.ofNat c.toNat), rest)
  else if letters.contains 'f' then
    some (.text (← readPieces? isRaw (body.length + 1) [] body), rest)
  else
    let content ← decodeBody? isRaw false body
    some (.text [.plain (String.ofList content)], rest)

/-! ## All tokens -/

/-- A name or a word of the grammar at the start of the characters. -/
def readName? (cs : List Char) : Option (Token × List Char) :=
  let name := cs.takeWhile isWordPart
  let rest := cs.drop name.length
  if words.contains (String.ofList name) then some (.word (String.ofList name), rest)
  else if Text.isIdentifier name then
    some (.name (String.ofList (name.flatMap Text.asciiForm)), rest)
  else none

/-- The token at the start of the characters, and what follows it. -/
def readToken? (cs : List Char) : Option (Token × List Char) :=
  match quoteLetters? cs with
  | some letters => readQuoted? letters (cs.drop letters.length)
  | none =>
    match cs with
    | [] => none
    | c :: rest =>
      if c.isDigit || (c = '.' && rest.head?.any Char.isDigit) then readNumber? cs
      else if isWordPart c then readName? cs
      else (signs.find? fun s => s.toList.isPrefixOf cs).map fun s =>
        (.sign s, cs.drop s.length)

/-- How deep brackets may be nested. -/
def maxDepth : Nat := 200

/-- The depth of brackets after a token. -/
def depthAfter? (depth : Nat) : Token → Option Nat
  | .sign s =>
    if ["(", "[", "\x7b"].contains s then
      if depth < maxDepth then some (depth + 1) else none
    else if [")", "]", "\x7d"].contains s then
      if depth = 0 then none else some (depth - 1)
    else some depth
  | _ => some depth

/-- The tokens of an expression at a depth of brackets. -/
def tokensFrom? (fuel depth : Nat) (cs : List Char) : Option (List Token) :=
  match fuel with
  | 0 => none
  | fuel + 1 =>
    match cs with
    | [] => if depth = 0 then some [] else none
    | '\\' :: '\n' :: rest => if rest.isEmpty then none else tokensFrom? fuel depth rest
    | '\n' :: rest =>
      if 0 < depth then tokensFrom? fuel depth rest
      else if isEmptyEnd rest then some []
      else none
    | '#' :: rest => tokensFrom? fuel depth (rest.dropWhile (· ≠ '\n'))
    | c :: rest =>
      if isGap c then tokensFrom? fuel depth rest
      else do
        let (token, rest) ← readToken? (c :: rest)
        return token :: (← tokensFrom? fuel (← depthAfter? depth token) rest)

/-- The tokens of a text. -/
def tokens? (cs : List Char) : Option (List Token) := do
  let cs ← skipLeading false 0 (unifyLines cs)
  tokensFrom? (cs.length + 1) 0 cs

end PagedTables.TypeText
