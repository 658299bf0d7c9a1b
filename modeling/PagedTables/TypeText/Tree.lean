import PagedTables.TypeText.Token

/-!
# Trees of type texts

The expression that the tokens of a type text form. Operators bind as their levels say, the ones
of a level from left to right except for powers; a choice and a function bind weakest, and
attributes, subscripts and calls strongest.

`Tree.parse?` reads a whole text. A text that is no expression has no tree.
-/
namespace PagedTables.TypeText

/-- The operators between two operands that are computed from both. -/
inductive Operator where
  | bar | caret | ampersand | shiftLeft | shiftRight | plus | minus | times | matrix | divide
  | floor | remainder | power
  deriving DecidableEq

/-- The operators in front of one operand that are computed from it. -/
inductive SignOperator where
  | plus | minus | complement
  deriving DecidableEq

/-- The relations between two operands. -/
inductive Relation where
  | equal | notEqual | less | lessEqual | greater | greaterEqual | same | notSame | among
  | notAmong
  deriving DecidableEq

/-- What a comprehension makes of its elements. -/
inductive Collection where
  | list | set | dict | generator
  deriving DecidableEq

/-- How a parameter of a function takes its argument. -/
inductive ParameterKind where
  | byPosition | byEither | byName
  /-- All arguments by position that no other parameter takes. -/
  | positions
  /-- All arguments by name that no other parameter takes. -/
  | names
  deriving DecidableEq

/-- An expression. -/
inductive Tree where
  | name (s : String)
  | nothing
  | bool (b : Bool)
  | int (n : Nat)
  | float (x : Binary64)
  | imaginary
  | bytes (content : List UInt8)
  | ellipsis
  | plain (s : String)
  /-- A text that is put together from parts. -/
  | joined (parts : List Tree)
  /-- The text of a value as a part of another text, in the form that the last parts spell. -/
  | field (x : Tree) (mark : Option Char) (form : List Tree)
  | negation (x : Tree)
  | conjunction (left right : Tree)
  | disjunction (left right : Tree)
  | signed (op : SignOperator) (x : Tree)
  | binary (op : Operator) (left right : Tree)
  /-- A chain of relations, each between two neighbours. -/
  | chain (first : Tree) (rest : List (Relation × Tree))
  | choice (condition yes no : Tree)
  | member (x : Tree) (name : String)
  | subscript (x index : Tree)
  | slice (start stop step : Option Tree)
  /-- A call with arguments by position, and others by name or out of a dictionary. -/
  | call (f : Tree) (arguments : List Tree) (named : List (Option String × Tree))
  | tuple (xs : List Tree)
  | list (xs : List Tree)
  | set (xs : List Tree)
  /-- A dictionary; an entry without a key is a dictionary whose entries are put in. -/
  | dict (entries : List (Option Tree × Tree))
  | starred (x : Tree)
  /-- A function of parameters, which may have defaults. -/
  | function (parameters : List (String × ParameterKind × Option Tree)) (body : Tree)
  /-- A comprehension: what is made of each element, and where the elements come from. -/
  | each (result : Collection) (element : List Tree) (clauses : List (Tree × Tree × List Tree))
  | binding (name : String) (x : Tree)
  /-- A result that a function gives before it ends. -/
  | produced (x : Option Tree)

namespace Tree

/-- The tree is an element that has to be unpacked. -/
def isStarred : Tree → Bool
  | starred _ => true
  | _ => false

/-- A name that nothing can be bound to although it is one. -/
def fixedName : String := "__debug__"

mutual

/-- A tree that elements can be bound to. -/
def isTarget : Tree → Bool
  | name s => s ≠ fixedName
  | member .. => true
  | subscript .. => true
  | tuple xs => areTargets xs
  | list xs => areTargets xs
  | _ => false

/-- Trees that elements can be bound to, with at most one for all that are left. -/
def areTargets : List Tree → Bool
  | [] => true
  | x :: rest =>
    match x with
    | starred x => isTarget x && areTargets rest && !rest.any isStarred
    | x => isTarget x && areTargets rest

end

mutual

/-- The names that a target binds. -/
def targetNames : Tree → List String
  | name s => [s]
  | starred x => targetNames x
  | tuple xs => allTargetNames xs
  | list xs => allTargetNames xs
  | _ => []

/-- The names that targets bind. -/
def allTargetNames : List Tree → List String
  | [] => []
  | x :: rest => targetNames x ++ allTargetNames rest

end

/-- Where a part of an expression stands. -/
structure Place where
  inFunction : Bool
  /-- In the source of the elements of a comprehension. -/
  inSource : Bool
  /-- The names that the comprehensions around the part bind to their elements. -/
  elements : List String

/-- The place of the whole expression. -/
def Place.whole : Place :=
  ⟨false, false, []⟩

mutual

/-- Whether every part that may only stand in some places does so: names are not bound in the
source of a comprehension, nor those that are bound to its elements, and only functions give
results before they end. -/
def isPlaced (p : Place) : Tree → Bool
  | joined xs => arePlaced p xs
  | field x _ form => isPlaced p x && arePlaced p form
  | negation x => isPlaced p x
  | conjunction l r => isPlaced p l && isPlaced p r
  | disjunction l r => isPlaced p l && isPlaced p r
  | signed _ x => isPlaced p x
  | binary _ l r => isPlaced p l && isPlaced p r
  | chain first rest => isPlaced p first && isChainPlaced p rest
  | choice condition yes no => isPlaced p condition && isPlaced p yes && isPlaced p no
  | member x _ => isPlaced p x
  | subscript x index => isPlaced p x && isPlaced p index
  | slice start stop step =>
    isPlacedIfAny p start && isPlacedIfAny p stop && isPlacedIfAny p step
  | call f arguments named =>
    isPlaced p f && arePlaced p arguments && areNamedPlaced p named
  | tuple xs => arePlaced p xs
  | list xs => arePlaced p xs
  | set xs => arePlaced p xs
  | dict entries => areEntriesPlaced p entries
  | starred x => isPlaced p x
  | function parameters body =>
    areDefaultsPlaced p parameters && isPlaced ⟨true, p.inSource, []⟩ body
  | each _ element clauses =>
    let inner : Place := ⟨false, p.inSource, boundBy clauses ++ p.elements⟩
    areClausesPlaced { p with inSource := true } inner clauses && arePlaced inner element
  | binding n x => !p.inSource && !p.elements.contains n && isPlaced p x
  | produced x => p.inFunction && isPlacedIfAny p x
  | _ => true

/-- Every part of a list is placed. -/
def arePlaced (p : Place) : List Tree → Bool
  | [] => true
  | x :: rest => isPlaced p x && arePlaced p rest

/-- The part is placed if there is one. -/
def isPlacedIfAny (p : Place) : Option Tree → Bool
  | none => true
  | some x => isPlaced p x

/-- Every operand of a chain is placed. -/
def isChainPlaced (p : Place) : List (Relation × Tree) → Bool
  | [] => true
  | (_, x) :: rest => isPlaced p x && isChainPlaced p rest

/-- Every argument that is given by name is placed. -/
def areNamedPlaced (p : Place) : List (Option String × Tree) → Bool
  | [] => true
  | (_, x) :: rest => isPlaced p x && areNamedPlaced p rest

/-- Every default of a parameter is placed. -/
def areDefaultsPlaced (p : Place) : List (String × ParameterKind × Option Tree) → Bool
  | [] => true
  | (_, _, x) :: rest => isPlacedIfAny p x && areDefaultsPlaced p rest

/-- Every entry is placed. -/
def areEntriesPlaced (p : Place) : List (Option Tree × Tree) → Bool
  | [] => true
  | (k, x) :: rest => isPlacedIfAny p k && isPlaced p x && areEntriesPlaced p rest

/-- Every clause is placed, the first source outside of the comprehension. -/
def areClausesPlaced (source inner : Place) : List (Tree × Tree × List Tree) → Bool
  | [] => true
  | (_, x, conditions) :: rest =>
    isPlaced source x && arePlaced inner conditions &&
      areClausesPlaced { inner with inSource := true } inner rest

/-- The names that clauses bind. -/
def boundBy : List (Tree × Tree × List Tree) → List String
  | [] => []
  | (target, _, _) :: rest => targetNames target ++ boundBy rest

end

/-- The token is this sign. -/
def isSign (s : String) : Token → Bool
  | .sign t => t == s
  | _ => false

/-- The token is this word. -/
def isWord (s : String) : Token → Bool
  | .word t => t == s
  | _ => false

/-- What follows a sign that has to come next. -/
def after? (s : String) : List Token → Option (List Token)
  | t :: rest => if isSign s t then some rest else none
  | [] => none

/-- The level of `or`. -/
def disjunctionLevel : Nat := 1

/-- The level of `and`. -/
def conjunctionLevel : Nat := 2

/-- The level of `not`. -/
def negationLevel : Nat := 3

/-- The level of relations. -/
def relationLevel : Nat := 4

/-- The level of the operands of relations. -/
def operandLevel : Nat := 5

/-- The level of signs in front of an operand, which is also that of the right side of a power. -/
def signLevel : Nat := 11

/-- The operators with their levels. -/
def operators : List (String × Nat × Operator) :=
  [("|", 5, .bar), ("^", 6, .caret), ("&", 7, .ampersand), ("<<", 8, .shiftLeft),
    (">>", 8, .shiftRight), ("+", 9, .plus), ("-", 9, .minus), ("*", 10, .times),
    ("@", 10, .matrix), ("/", 10, .divide), ("//", 10, .floor), ("%", 10, .remainder),
    ("**", 12, .power)]

/-- The operator that comes next, its level, and what follows. -/
def operator? : List Token → Option (Nat × Operator × List Token)
  | .sign s :: rest => (operators.lookup s).map fun (level, op) => (level, op, rest)
  | _ => none

/-- The operator in front of an operand, and what follows. -/
def signOperator? : List Token → Option (SignOperator × List Token)
  | .sign s :: rest =>
    ([("+", .plus), ("-", .minus), ("~", .complement)].lookup s).map fun op => (op, rest)
  | _ => none

/-- The relations with their signs. -/
def relations : List (String × Relation) :=
  [("==", .equal), ("!=", .notEqual), ("<", .less), ("<=", .lessEqual), (">", .greater),
    (">=", .greaterEqual)]

/-- The relation that comes next, and what follows. -/
def relation? : List Token → Option (Relation × List Token)
  | .sign s :: rest => (relations.lookup s).map fun r => (r, rest)
  | .word s :: rest =>
    if s = "in" then some (.among, rest)
    else if s = "is" then
      match rest with
      | t :: after => if isWord "not" t then some (.notSame, after) else some (.same, rest)
      | [] => some (.same, rest)
    else if s = "not" then
      match rest with
      | t :: after => if isWord "in" t then some (.notAmong, after) else none
      | [] => none
    else none
  | _ => none

/-- The parameters of a function that have been read. -/
structure Parameters where
  entries : List (String × ParameterKind × Option Tree)
  hasStar : Bool

namespace Parameters

/-- No parameters so far. -/
def none : Parameters :=
  ⟨[], false⟩

/-- There is a parameter of a kind. -/
def has (p : Parameters) (kind : ParameterKind) : Bool :=
  p.entries.any fun (_, k, _) => k = kind

/-- One parameter more, if its name is new and it may stand here: after a default for a position
every other position has one too. -/
def add? (p : Parameters) (name : String) (kind : ParameterKind) (default : Option Tree) :
    Option Parameters :=
  if p.entries.any (fun (n, _) => n = name) || name = fixedName || p.has .names then Option.none
  else if kind = .byEither && default.isNone && p.entries.any (fun (_, _, x) => x.isSome) then
    Option.none
  else some { p with entries := p.entries ++ [(name, kind, default)] }

/-- The kind of the next parameter without a sign. -/
def nextKind (p : Parameters) : ParameterKind :=
  if p.hasStar then .byName else .byEither

/-- The parameters so far take their arguments by position alone. -/
def close? (p : Parameters) : Option Parameters :=
  if p.entries.isEmpty || p.has .byPosition || p.hasStar || p.has .names then Option.none
  else some { p with entries := p.entries.map fun (n, _, x) => (n, .byPosition, x) }

end Parameters

/-- The arguments of a call that have been read. -/
structure Arguments where
  values : List Tree
  named : List (Option String × Tree)

/-- An argument was given by name or out of a dictionary. -/
def Arguments.hasNamed (a : Arguments) : Bool :=
  !a.named.isEmpty

mutual

/-- An expression at the start of the tokens, and what follows it. -/
def expression? (fuel : Nat) (ts : List Token) : Option (Tree × List Token) :=
  match fuel with
  | 0 => none
  | fuel + 1 =>
    match ts with
    | [] => none
    | t :: after =>
      if isWord "lambda" t then do
        let (p, rest) ← parameters? fuel .none after
        let (body, rest) ← expression? fuel rest
        return (function p.entries body, rest)
      else do
        let (x, rest) ← operand? fuel disjunctionLevel ts
        match rest with
        | .word "if" :: rest => do
          let (condition, rest) ← operand? fuel disjunctionLevel rest
          match rest with
          | .word "else" :: rest => do
            let (no, rest) ← expression? fuel rest
            return (choice condition x no, rest)
          | _ => none
        | rest => return (x, rest)

/-- The parameters of a function up to the colon, which is consumed. -/
def parameters? (fuel : Nat) (p : Parameters) (ts : List Token) :
    Option (Parameters × List Token) :=
  match fuel with
  | 0 => none
  | fuel + 1 =>
    match ts with
    | .sign ":" :: rest => some (p, rest)
    | .name n :: .sign "=" :: rest => do
      let (default, rest) ← expression? fuel rest
      moreParameters? fuel (← p.add? n p.nextKind (some default)) rest
    | .name n :: rest => do moreParameters? fuel (← p.add? n p.nextKind Option.none) rest
    | .sign "/" :: rest => do moreParameters? fuel (← p.close?) rest
    | .sign "*" :: rest =>
      if p.hasStar || p.has .names then none
      else
        let p := { p with hasStar := true }
        match rest with
        | .name n :: rest => do moreParameters? fuel (← p.add? n .positions Option.none) rest
        | .sign "," :: .name n :: rest => parameters? fuel p (.name n :: rest)
        | _ => none
    | .sign "**" :: .name n :: rest => do
      moreParameters? fuel (← p.add? n .names Option.none) rest
    | _ => none

/-- What may follow a parameter. -/
def moreParameters? (fuel : Nat) (p : Parameters) (ts : List Token) :
    Option (Parameters × List Token) :=
  match fuel with
  | 0 => none
  | fuel + 1 =>
    match ts with
    | .sign ":" :: rest => some (p, rest)
    | .sign "," :: rest => parameters? fuel p rest
    | _ => none

/-- An operand of an operator of the level before it, and what follows. -/
def operand? (fuel level : Nat) (ts : List Token) : Option (Tree × List Token) :=
  match fuel with
  | 0 => none
  | fuel + 1 =>
    match ts, signOperator? ts with
    | .word "not" :: rest, _ =>
      if negationLevel < level then none
      else do
        let (x, rest) ← operand? fuel negationLevel rest
        operands? fuel level (negation x) rest
    | _, some (op, rest) => do
      let (x, rest) ← operand? fuel signLevel rest
      operands? fuel level (signed op x) rest
    | ts, none => do
      let (x, rest) ← atom? fuel ts
      let (x, rest) ← trailers? fuel x rest
      operands? fuel level x rest

/-- The operators of at least the level after a first operand, with their other operands. -/
def operands? (fuel level : Nat) (left : Tree) (ts : List Token) : Option (Tree × List Token) :=
  match fuel with
  | 0 => none
  | fuel + 1 =>
    match operator? ts with
    | some (own, op, rest) =>
      if own < level then some (left, ts)
      else do
        let (right, rest) ← operand? fuel (if op = .power then signLevel else own + 1) rest
        operands? fuel level (binary op left right) rest
    | none =>
      if (relation? ts).isSome then
        if relationLevel < level then some (left, ts)
        else do
          let (chained, rest) ← chain? fuel ts
          operands? fuel level (chain left chained) rest
      else match ts with
        | .word "and" :: rest =>
          if conjunctionLevel < level then some (left, ts)
          else do
            let (right, rest) ← operand? fuel negationLevel rest
            operands? fuel level (conjunction left right) rest
        | .word "or" :: rest =>
          if disjunctionLevel < level then some (left, ts)
          else do
            let (right, rest) ← operand? fuel conjunctionLevel rest
            operands? fuel level (disjunction left right) rest
        | ts => some (left, ts)

/-- The relations that come next, with their right operands. -/
def chain? (fuel : Nat) (ts : List Token) : Option (List (Relation × Tree) × List Token) :=
  match fuel with
  | 0 => none
  | fuel + 1 =>
    match relation? ts with
    | none => some ([], ts)
    | some (r, rest) => do
      let (x, rest) ← operand? fuel operandLevel rest
      let (others, rest) ← chain? fuel rest
      return ((r, x) :: others, rest)

/-- The attributes, subscripts and calls after an operand. -/
def trailers? (fuel : Nat) (x : Tree) (ts : List Token) : Option (Tree × List Token) :=
  match fuel with
  | 0 => none
  | fuel + 1 =>
    match ts with
    | .sign "." :: .name n :: rest => trailers? fuel (member x n) rest
    | .sign "[" :: rest => do
      let (index, rest) ← index? fuel rest
      trailers? fuel (subscript x index) rest
    | .sign "(" :: rest => do
      let (a, rest) ← arguments? fuel ⟨[], []⟩ rest
      trailers? fuel (call x a.values a.named) rest
    | ts => some (x, ts)

/-- The arguments of a call up to the closing parenthesis, which is consumed. -/
def arguments? (fuel : Nat) (a : Arguments) (ts : List Token) :
    Option (Arguments × List Token) :=
  match fuel with
  | 0 => none
  | fuel + 1 =>
    match ts with
    | .sign ")" :: rest => some (a, rest)
    | .sign "**" :: rest => do
      let (x, rest) ← expression? fuel rest
      moreArguments? fuel { a with named := a.named ++ [(none, x)] } rest
    | .sign "*" :: rest => do
      let (x, rest) ← expression? fuel rest
      if a.named.any fun n => n.1.isNone then none
      else moreArguments? fuel { a with values := a.values ++ [starred x] } rest
    | .name n :: .sign "=" :: rest => do
      let (x, rest) ← expression? fuel rest
      if n = fixedName || a.named.any fun given => given.1 = some n then none
      else moreArguments? fuel { a with named := a.named ++ [(some n, x)] } rest
    | ts => do
      let (x, rest) ← element? fuel ts
      if a.hasNamed then none
      else match rest with
        | .word "for" :: _ => do
          let (clauses, rest) ← clauses? fuel rest
          if !a.values.isEmpty then none
          else return (⟨[each .generator [x] clauses], []⟩, ← after? ")" rest)
        | rest => moreArguments? fuel { a with values := a.values ++ [x] } rest

/-- What may follow an argument. -/
def moreArguments? (fuel : Nat) (a : Arguments) (ts : List Token) :
    Option (Arguments × List Token) :=
  match fuel with
  | 0 => none
  | fuel + 1 =>
    match ts with
    | .sign ")" :: rest => some (a, rest)
    | .sign "," :: rest => arguments? fuel a rest
    | _ => none

/-- A subscript up to the closing bracket, which is consumed; several make a tuple. -/
def index? (fuel : Nat) (ts : List Token) : Option (Tree × List Token) :=
  match fuel with
  | 0 => none
  | fuel + 1 => do
    let (x, rest) ← subscriptPart? fuel ts
    match rest with
    | .sign "]" :: rest => return (if x.isStarred then tuple [x] else x, rest)
    | .sign "," :: rest => do
      let (xs, rest) ← subscriptParts? fuel rest
      return (tuple (x :: xs), rest)
    | _ => none

/-- The parts of a subscript up to the closing bracket, which is consumed. -/
def subscriptParts? (fuel : Nat) (ts : List Token) : Option (List Tree × List Token) :=
  match fuel with
  | 0 => none
  | fuel + 1 =>
    match ts with
    | .sign "]" :: rest => some ([], rest)
    | ts => do
      let (x, rest) ← subscriptPart? fuel ts
      match rest with
      | .sign "]" :: rest => return ([x], rest)
      | .sign "," :: rest => do
        let (xs, rest) ← subscriptParts? fuel rest
        return (x :: xs, rest)
      | _ => none

/-- A slice, or an element. -/
def subscriptPart? (fuel : Nat) (ts : List Token) : Option (Tree × List Token) :=
  match fuel with
  | 0 => none
  | fuel + 1 => do
    let (start, rest) ←
      match ts with
      | .sign ":" :: _ => some (Option.none, ts)
      | .sign "*" :: rest =>
        (expression? fuel rest).map fun (x, rest) => (some (starred x), rest)
      | ts => (element? fuel ts).map fun (x, rest) => (some x, rest)
    match start, rest with
    | start, .sign ":" :: rest => do
      if start.any isStarred then none
      let (stop, rest) ← sliceBound? fuel rest
      match rest with
      | .sign ":" :: rest => do
        let (step, rest) ← sliceBound? fuel rest
        return (slice start stop step, rest)
      | rest => return (slice start stop Option.none, rest)
    | some x, rest => return (x, rest)
    | Option.none, _ => none

/-- A bound of a slice, unless it is left out. -/
def sliceBound? (fuel : Nat) (ts : List Token) : Option (Option Tree × List Token) :=
  match fuel with
  | 0 => none
  | fuel + 1 =>
    match ts with
    | .sign ":" :: _ => some (Option.none, ts)
    | .sign "," :: _ => some (Option.none, ts)
    | .sign "]" :: _ => some (Option.none, ts)
    | ts => (expression? fuel ts).map fun (x, rest) => (some x, rest)

/-- An element of a collection: an expression, also one with a name for its value, or one to be
unpacked. -/
def element? (fuel : Nat) (ts : List Token) : Option (Tree × List Token) :=
  match fuel with
  | 0 => none
  | fuel + 1 =>
    match ts with
    | .sign "*" :: rest => (operand? fuel operandLevel rest).map fun (x, rest) => (starred x, rest)
    | .name n :: .sign ":=" :: rest =>
      if n = fixedName then none
      else (expression? fuel rest).map fun (x, rest) => (binding n x, rest)
    | ts => expression? fuel ts

/-- The elements up to a closing sign, which is consumed. -/
def elements? (fuel : Nat) (close : String) (ts : List Token) :
    Option (List Tree × List Token) :=
  match fuel with
  | 0 => none
  | fuel + 1 =>
    match ts with
    | [] => none
    | t :: after =>
      if isSign close t then some ([], after)
      else do
        let (x, rest) ← element? fuel ts
        match rest with
        | .sign s :: rest =>
          if s = close then return ([x], rest)
          else if s = "," then do
            let (xs, rest) ← elements? fuel close rest
            return (x :: xs, rest)
          else none
        | _ => none

/-- The clauses of a comprehension. -/
def clauses? (fuel : Nat) (ts : List Token) :
    Option (List (Tree × Tree × List Tree) × List Token) :=
  match fuel with
  | 0 => none
  | fuel + 1 =>
    match ts with
    | .word "for" :: rest => do
      let (targets, rest) ← targets? fuel rest
      let target ← match targets with
        | ([x], false) => some x
        | (xs, _) => some (tuple xs)
      if !target.isTarget then none
      let (source, rest) ← operand? fuel disjunctionLevel rest
      let (conditions, rest) ← conditions? fuel rest
      let (others, rest) ← clauses? fuel rest
      return ((target, source, conditions) :: others, rest)
    | ts => some ([], ts)

/-- The conditions on the elements of a clause. -/
def conditions? (fuel : Nat) (ts : List Token) : Option (List Tree × List Token) :=
  match fuel with
  | 0 => none
  | fuel + 1 =>
    match ts with
    | .word "if" :: rest => do
      let (x, rest) ← operand? fuel disjunctionLevel rest
      let (others, rest) ← conditions? fuel rest
      return (x :: others, rest)
    | ts => some ([], ts)

/-- The targets of a clause up to the word after them, which is consumed, and whether there is a
comma among them. -/
def targets? (fuel : Nat) (ts : List Token) : Option ((List Tree × Bool) × List Token) :=
  match fuel with
  | 0 => none
  | fuel + 1 => do
    let (x, rest) ←
      match ts with
      | .sign "*" :: rest =>
        (operand? fuel operandLevel rest).map fun (x, rest) => (starred x, rest)
      | ts => operand? fuel operandLevel ts
    match rest with
    | .word "in" :: rest => return (([x], false), rest)
    | .sign "," :: .word "in" :: rest => return (([x], true), rest)
    | .sign "," :: rest => do
      let ((xs, _), rest) ← targets? fuel rest
      return ((x :: xs, true), rest)
    | _ => none

/-- The entries of a dictionary up to the closing brace, which is consumed. -/
def entries? (fuel : Nat) (ts : List Token) :
    Option (List (Option Tree × Tree) × List Token) :=
  match fuel with
  | 0 => none
  | fuel + 1 =>
    match ts with
    | .sign "\x7d" :: rest => some ([], rest)
    | ts => do
      let (entry, rest) ←
        match ts with
        | .sign "**" :: rest =>
          (operand? fuel operandLevel rest).map fun (x, rest) => ((Option.none, x), rest)
        | ts => do
          let (k, rest) ← expression? fuel ts
          let (x, rest) ← expression? fuel (← after? ":" rest)
          some ((some k, x), rest)
      match rest with
      | .sign "\x7d" :: rest => return ([entry], rest)
      | .sign "," :: rest => do
        let (others, rest) ← entries? fuel rest
        return (entry :: others, rest)
      | _ => none

/-- What stands between braces, which are consumed after the first one. -/
def braces? (fuel : Nat) (ts : List Token) : Option (Tree × List Token) :=
  match fuel with
  | 0 => none
  | fuel + 1 =>
    match ts with
    | .sign "\x7d" :: rest => some (dict [], rest)
    | .sign "**" :: _ => (entries? fuel ts).map fun (entries, rest) => (dict entries, rest)
    | ts => do
      let (x, rest) ← element? fuel ts
      match rest with
      | .sign ":" :: rest => do
        if x.isStarred then none
        let (v, rest) ← expression? fuel rest
        match rest with
        | .sign "\x7d" :: rest => return (dict [(some x, v)], rest)
        | .sign "," :: rest => do
          let (entries, rest) ← entries? fuel rest
          return (dict ((some x, v) :: entries), rest)
        | .word "for" :: _ => do
          let (clauses, rest) ← clauses? fuel rest
          return (each .dict [x, v] clauses, ← after? "\x7d" rest)
        | _ => none
      | .word "for" :: _ => do
        if x.isStarred then none
        let (clauses, rest) ← clauses? fuel rest
        return (each .set [x] clauses, ← after? "\x7d" rest)
      | .sign "\x7d" :: rest => return (set [x], rest)
      | .sign "," :: rest => do
        let (xs, rest) ← elements? fuel "\x7d" rest
        return (set (x :: xs), rest)
      | _ => none

/-- What stands between brackets or parentheses that close with a sign, all of it consumed. -/
def enclosed? (fuel : Nat) (close : String) (ts : List Token) : Option (Tree × List Token) :=
  match fuel with
  | 0 => none
  | fuel + 1 =>
    let isList := close = "]"
    let made (xs : List Tree) : Tree := if isList then list xs else tuple xs
    match after? close ts, ts with
    | some rest, _ => some (made [], rest)
    | none, .word "yield" :: .word "from" :: rest => do
      if isList then none
      let (x, rest) ← expression? fuel rest
      return (produced (some x), ← after? close rest)
    | none, .word "yield" :: rest => do
      if isList then none
      match after? close rest with
      | some rest => return (produced Option.none, rest)
      | none =>
        let (xs, rest) ← elements? fuel close rest
        return (produced (some (tuple xs)), rest)
    | none, ts => do
      let (x, rest) ← element? fuel ts
      match rest with
      | .word "for" :: _ => do
        if x.isStarred then none
        let (clauses, rest) ← clauses? fuel rest
        return (each (if isList then .list else .generator) [x] clauses, ← after? close rest)
      | .sign "," :: rest => do
        let (xs, rest) ← elements? fuel close rest
        return (made (x :: xs), rest)
      | rest => do
        if !isList && x.isStarred then none
        return (if isList then list [x] else x, ← after? close rest)

/-- The parts of a text. -/
def parts? (fuel : Nat) (pieces : List Piece) : Option (List Tree) :=
  match fuel with
  | 0 => none
  | fuel + 1 =>
    match pieces with
    | [] => some []
    | .plain s :: rest => do return plain s :: (← parts? fuel rest)
    | .field expression mark form :: rest => do
      let cs := unifyLines expression ++ [')']
      let (x, after) ← enclosed? fuel ")" (← tokensFrom? (cs.length + 1) 1 cs)
      if !after.isEmpty then none
      return field x mark (← parts? fuel form) :: (← parts? fuel rest)

/-- An operand that no operator is part of, at the start of the tokens. -/
def atom? (fuel : Nat) (ts : List Token) : Option (Tree × List Token) :=
  match fuel with
  | 0 => none
  | fuel + 1 =>
    match ts with
    | .name s :: rest => some (name s, rest)
    | .word "None" :: rest => some (nothing, rest)
    | .word "True" :: rest => some (bool true, rest)
    | .word "False" :: rest => some (bool false, rest)
    | .int n :: rest => some (int n, rest)
    | .float x :: rest => some (float x, rest)
    | .imaginary :: rest => some (imaginary, rest)
    | .sign "..." :: rest => some (ellipsis, rest)
    | .sign "(" :: rest => enclosed? fuel ")" rest
    | .sign "[" :: rest => enclosed? fuel "]" rest
    | .sign "\x7b" :: rest => braces? fuel rest
    | .bytes content :: rest => do
      let (others, rest) := adjacentBytes rest
      match rest with
      | .text _ :: _ => none
      | rest => return (bytes (content ++ others), rest)
    | .text pieces :: rest => do
      let (others, rest) := adjacentTexts rest
      match rest with
      | .bytes _ :: _ => none
      | rest => return (joined (← parts? fuel (pieces ++ others)), rest)
    | _ => none
where
  /-- The strings of bytes that come next, put together. -/
  adjacentBytes : List Token → List UInt8 × List Token
    | .bytes content :: rest =>
      let (others, rest) := adjacentBytes rest
      (content ++ others, rest)
    | rest => ([], rest)
  /-- The parts of the texts that come next. -/
  adjacentTexts : List Token → List Piece × List Token
    | .text pieces :: rest =>
      let (others, rest) := adjacentTexts rest
      (pieces ++ others, rest)
    | rest => ([], rest)

end

/-- The expressions between commas at the start of the tokens; with a comma they are a tuple. -/
def expressions? (fuel : Nat) (ts : List Token) : Option ((List Tree × Bool) × List Token) :=
  match fuel with
  | 0 => none
  | fuel + 1 => do
    let (x, rest) ← expression? fuel ts
    match rest with
    | [.sign ","] => return (([x], true), [])
    | .sign "," :: rest => do
      let ((xs, _), rest) ← expressions? fuel rest
      return ((x :: xs, true), rest)
    | rest => return (([x], false), rest)

/-- How often the grammar may be entered for each character of a text. -/
def stepsPerCharacter : Nat := 12

/-- The tree of a whole text. -/
def parse? (cs : List Char) : Option Tree := do
  let fuel := stepsPerCharacter * (cs.length + 2)
  let t ← match ← expressions? fuel (← tokens? cs) with
    | (([x], false), []) => some x
    | ((xs, _), []) => some (tuple xs)
    | _ => none
  if t.isPlaced .whole then some t else none

end Tree

end PagedTables.TypeText
