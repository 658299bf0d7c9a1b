import PagedTables.TypeText.Method
import PagedTables.TypeText.Surroundings

/-!
# Evaluation of type texts

The meaning of a type text among the names that it can use: those that it binds itself, those of
the place where types are declared, the attributes of its record type, and the names that every
program knows, the earlier ones hiding the later ones.

`meaning` evaluates a text and then every text that stands for a type in its result. A text that
comes back to itself that way stays as it is.
-/
namespace PagedTables.TypeText

/-- The names that a part of a text can use, but for those that are bound on the way to it. -/
structure Scope where
  /-- What stands around the whole text. -/
  around : Surroundings
  /-- What comprehensions around the part bind to their elements. -/
  elements : Bindings
  /-- The arguments of the functions around the part, and what was bound around those. -/
  arguments : Bindings
  /-- Within a function or comprehension the names of the place of the types are not known. -/
  isInner : Bool
  isInFunction : Bool

/-- What has been bound on the way, by the place where that was done. -/
structure Assigned where
  outside : Bindings
  inComprehensions : Bindings
  inFunction : Bindings

/-- A step of an evaluation, which may bind names. -/
abbrev Reading := StateT Assigned (Except Flaw)

/-- Nothing has been bound. -/
def Assigned.none : Assigned :=
  ⟨[], [], []⟩

namespace Scope

/-- The scope of a whole text. -/
def whole (around : Surroundings) : Scope :=
  ⟨around, [], [], false, false⟩

/-- The names that a whole text can use as its own. -/
def localNames (s : Scope) (assigned : Assigned) : Bindings :=
  s.around.place ++ assigned.outside.reverse

/-- The names that every part of a text can use, but for those that every program knows. -/
def globalNames (s : Scope) (assigned : Assigned) : Bindings :=
  s.around.members ++ assigned.inComprehensions.reverse

/-- What a name stands for. -/
def lookup (s : Scope) (name : String) : Reading Meaning := do
  let assigned ← get
  let near := s.elements ++ assigned.inFunction ++ s.arguments
  let wide := if s.isInner then [] else assigned.outside ++ s.around.place
  let found? := (near ++ wide ++ assigned.inComprehensions ++ s.around.members).lookup name
  (found? <|> Meaning.known? name).elim (throw .senseless) pure

/-- Binds a name to a meaning. -/
def assign (s : Scope) (name : String) (m : Meaning) : Reading Unit :=
  modify fun a =>
    if s.isInFunction then { a with inFunction := (name, m) :: a.inFunction }
    else if s.isInner then { a with inComprehensions := (name, m) :: a.inComprehensions }
    else { a with outside := (name, m) :: a.outside }

/-- The scope within a comprehension. -/
def inner (s : Scope) : Scope :=
  { s with isInner := true }

/-- The scope within a comprehension with more elements bound. -/
def bind (s : Scope) (elements : Bindings) : Scope :=
  { s with elements := elements ++ s.elements }

/-- The scope within a function. -/
def called (s : Scope) (arguments : Bindings) : Scope :=
  { s with elements := [], arguments := arguments, isInner := true, isInFunction := true }

end Scope

namespace Reading

/-- The step within a function, whose own names are not known outside of it. -/
def inFunction {α : Type} (step : Reading α) : Reading α := do
  let before := (← get).inFunction
  modify fun a => { a with inFunction := [] }
  let x ← step
  modify fun a => { a with inFunction := before }
  return x

/-- What a step that is put off will find, or what will go wrong in it. -/
def postponed {α : Type} (step : Reading α) : Reading (Except Flaw α) := fun a =>
  match step.run a with
  | .ok (x, a) => .ok (.ok x, a)
  | .error flaw => .ok (.error flaw, a)

end Reading

namespace Tree

/-- The names that a target binds to a meaning. -/
def bindings (fuel : Nat) (target : Tree) (m : Meaning) : Found Bindings :=
  match fuel with
  | 0 => .error .senseless
  | fuel + 1 =>
    let several (targets : List Tree) : Found Bindings := do
      let xs ← m.elements
      if xs.length < targets.length then
        .error (.operand ("not enough values to unpack (expected " ++ targets.length.repr ++
          ", got " ++ xs.length.repr ++ ")"))
      else if targets.length < xs.length then
        .error (.operand ("too many values to unpack (expected " ++ targets.length.repr ++ ")"))
      else return (← (targets.zip xs).mapM fun (t, x) => bindings fuel t x).flatten
    match target with
    | name s => .ok [(s, m)]
    | tuple targets => several targets
    | list targets => several targets
    | _ => .error .senseless

mutual

/-- The meaning of an expression. -/
def eval (fuel : Nat) (scope : Scope) (t : Tree) : Reading Meaning :=
  match fuel with
  | 0 => throw .senseless
  | fuel + 1 =>
    let optional (t : Option Tree) : Reading Meaning :=
      match t with
      | none => return .nothing
      | some t => eval fuel scope t
    let elements (ts : List Tree) : Reading (List Meaning) := do
      let parts ← ts.mapM fun t => match t with
        | starred t => do (← eval fuel scope t).elements
        | t => do return [← eval fuel scope t]
      return parts.flatten
    match t with
    | name s => scope.lookup s
    | nothing => return .nothing
    | bool b => return .ofBool b
    | int n => return .ofInt n
    | float x => return .value (.float x)
    | imaginary => return .unknown "complex"
    | bytes content => return .value (.bytes content)
    | ellipsis => return .object "ellipsis" "Ellipsis"
    | plain s => return .ofText s
    | joined parts => do return .ofText (← join? fuel scope parts)
    | field .. => throw .senseless
    | negation t => do return .ofBool !(← eval fuel scope t).isTruthy
    | conjunction l r => do
      let m ← eval fuel scope l
      if m.isTruthy then eval fuel scope r else return m
    | disjunction l r => do
      let m ← eval fuel scope l
      if m.isTruthy then return m else eval fuel scope r
    | signed op t => do Meaning.sign op (← eval fuel scope t)
    | binary op l r => do
      let m ← eval fuel scope l
      Meaning.operate op m (← eval fuel scope r)
    | chain first rest => do
      let first ← eval fuel scope first
      let (_, holds) ← rest.foldlM (fun (left, holds) (relation, t) => do
        if !holds then return (left, holds)
        let right ← eval fuel scope t
        return (right, ← Meaning.relate relation left right)) (first, true)
      return .ofBool holds
    | choice condition yes no => do
      if (← eval fuel scope condition).isTruthy then eval fuel scope yes
      else eval fuel scope no
    | member t s => do (← eval fuel scope t).member s
    | subscript t (slice start stop step) => do
      let m ← eval fuel scope t
      let start ← optional start
      let stop ← optional stop
      let step ← optional step
      match m with
      | .named _ => m.apply (.unknown "slice")
      | .builder _ => m.apply (.unknown "slice")
      | m => m.part start stop step
    | subscript t index => do
      let m ← eval fuel scope t
      m.entry (← eval fuel scope index)
    | slice start stop step => do
      let _ ← optional start
      let _ ← optional stop
      let _ ← optional step
      return .unknown "slice"
    | call f arguments named => do
      let m ← eval fuel scope f
      let arguments ← elements arguments
      let given ← named.mapM fun (key, t) => do return (key, ← eval fuel scope t)
      invoke fuel scope m arguments given
    | tuple ts => return .tuple (← elements ts)
    | list ts => return .list (← elements ts)
    | set ts => do
      let xs ← elements ts
      if Meaning.areKeys xs then return .set (Meaning.distinct xs) else throw .senseless
    | dict entries => do
      let made ← entries.foldlM (fun acc (key, t) => match key with
        | some key => do
          let k ← eval fuel scope key
          let x ← eval fuel scope t
          if k.isKey then return Meaning.insertEntry k x acc else throw .senseless
        | none => do
          match ← eval fuel scope t with
          | .dict entries =>
            return entries.foldl (fun acc (k, x) => Meaning.insertEntry k x acc) acc
          | _ => throw .senseless) []
      return .dict made
    | starred _ => throw .senseless
    | function parameters body => do
      let parameters ← parameters.mapM fun (n, kind, default) => do
        match default with
        | some t => return (n, kind, some (← eval fuel scope t))
        | none => return (n, kind, none)
      let around := scope.elements ++ (← get).inFunction ++ scope.arguments
      return .function parameters body around
    | each kind element clauses => do
      match clauses with
      | [] => throw .senseless
      | (target, source, conditions) :: rest =>
        let xs ← (← eval fuel scope source).source
        let rows : Reading (List (List Meaning)) := do
          each? fuel scope.inner element target (← xs) conditions rest
        match kind with
        | .generator =>
          let rows ← Reading.postponed rows
          return .series "generator" (rows.map (·.flatMap (List.take 1)))
        | .list => return .list ((← rows).flatMap (List.take 1))
        | .set =>
          let xs := (← rows).flatMap (List.take 1)
          if Meaning.areKeys xs then return .set (Meaning.distinct xs) else throw .senseless
        | .dict =>
          let rows ← rows
          if Meaning.areKeys (rows.flatMap (List.take 1)) then
            return .dict (rows.foldl (fun acc row => match row with
              | [k, x] => Meaning.insertEntry k x acc
              | _ => acc) [])
          else throw .senseless
    | binding n t => do
      let m ← eval fuel scope t
      scope.assign n m
      return m
    | produced _ => throw .senseless

/-- The text that parts make together. -/
def join? (fuel : Nat) (scope : Scope) (parts : List Tree) : Reading String :=
  match fuel with
  | 0 => throw .senseless
  | fuel + 1 => do
    let texts ← parts.mapM fun p => match p with
      | plain s => return s
      | field t mark form => do
        let m ← eval fuel scope t
        let m ← match mark with
          | none => pure m
          | some c => (m.markedText? c).elim (throw .senseless) (pure <| .ofText ·)
        m.inForm (← join? fuel scope form)
      | _ => throw .senseless
    return String.join texts

/-- The result of a call with arguments by position, and others by name or out of dictionaries. -/
def invoke (fuel : Nat) (scope : Scope) (m : Meaning) (arguments : List Meaning)
    (given : List (Option String × Meaning)) : Reading Meaning :=
  match fuel with
  | 0 => throw .senseless
  | fuel + 1 => do
    let named ← Meaning.spread given
    let m := match m with
      | .applied head _ => if head = "List" then m else .named head
      | m => m
    match m, arguments, named with
    | .function parameters body around, arguments, named =>
      let bound ← Meaning.bindArguments arguments named parameters
      Reading.inFunction (eval fuel (scope.called (bound ++ around)) body)
    | .object "builtin_function_or_method" "eval", m :: _, [] =>
      match m.asText? with
      | none => throw .senseless
      | some s => match parse? (s.toList.dropWhile fun c => c = ' ' || c = '\t') with
        | none => throw .malformed
        | some t => eval fuel scope t
    | .object "builtin_function_or_method" "globals", [], [] =>
      return .ofBindings (scope.globalNames (← get))
    | .object "builtin_function_or_method" f, [], [] =>
      if !scope.isInner && ["locals", "vars"].contains f then
        return .ofBindings (scope.localNames (← get))
      else if !scope.isInner && f = "dir" then
        let names := (scope.localNames (← get)).map fun (n, _) => Meaning.ofText n
        return .list (← Meaning.ordered (Meaning.distinct names))
      else m.call [] []
    | .method f "__call__", arguments, named =>
      match f with
      | .named "type" => return .unknown "object"
      | f => invoke fuel scope f arguments (named.map fun (key, x) => (some key, x))
    | .named "map", f :: columns, [] =>
      let columns ← liftM (columns.mapM Meaning.source)
      let xs ← Reading.postponed do
        let columns ← liftM (columns.mapM id)
        (Meaning.sideBySide columns).mapM fun row => invoke fuel scope f row.asArguments []
      return .series "map" xs
    | .named "filter", [f, m], [] =>
      let xs ← m.source
      let xs ← Reading.postponed do
        (← xs).filterM fun x => match f with
          | .nothing => return x.isTruthy
          | f => do return (← invoke fuel scope f [x] []).isTruthy
      return .series "filter" xs
    | .named "dict", arguments, named =>
      let entries ← match arguments with
        | [] => pure []
        | [m] => m.asEntries
        | _ => throw .senseless
      return .dict (named.foldl (fun acc (key, x) => Meaning.insertEntry (.ofText key) x acc)
        entries)
    | .named c, arguments, named@(_ :: _) =>
      if plainTypes.contains c then throw .senseless else m.call arguments named
    | m, arguments, named => m.call arguments named

/-- What a comprehension makes of the elements of its first source. -/
def each? (fuel : Nat) (scope : Scope) (element : List Tree) (target : Tree) (xs : List Meaning)
    (conditions : List Tree) (clauses : List (Tree × Tree × List Tree)) :
    Reading (List (List Meaning)) :=
  match fuel with
  | 0 => throw .senseless
  | fuel + 1 => do
    let rows ← xs.mapM fun x => do
      let scope := scope.bind (← bindings fuel target x)
      let holds ← conditions.foldlM (fun holds t => do
        if holds then return (← eval fuel scope t).isTruthy else return false) true
      if !holds then return []
      else match clauses with
        | [] => return [← element.mapM (eval fuel scope)]
        | (target, source, conditions) :: rest =>
          let xs ← (← eval fuel scope source).elements
          each? fuel scope element target xs conditions rest
    return rows.flatten

end

end Tree

/-- How deep texts are followed into the texts that they stand for. -/
def maxTexts : Nat := 1000

/-- The length by which every text counts as longer when the steps of its evaluation are limited. -/
def spareLength : Nat := 100

/-- A meaning in which every text in the place of a type is replaced by what it stands for, but
for the texts that are being looked up already. The notes about types are dropped. -/
def resolve (scope : Scope) (fuel : Nat) (seen : List String) (m : Meaning) : Reading Meaning :=
  match fuel with
  | 0 => throw .senseless
  | fuel + 1 =>
    match m with
    | .quoted s =>
      if seen.contains s then return m
      else match Meaning.tree? s with
        | none => throw .malformed
        | some t => do
          let found ← t.eval (Tree.stepsPerCharacter * (s.length + spareLength)) scope
          resolve scope fuel (s :: seen) (← found.asType)
    | .applied head arguments => do
      let arguments ← arguments.mapM fun a => match head, a.asText? with
        | "List", _ => return a
        | _, some s => Meaning.quote s
        | _, none => return a
      return .applied head (← arguments.mapM (resolve scope fuel seen))
    | .anyOf members => do
      let found ← members.mapM (resolve scope fuel seen)
      if Meaning.sameAll found members then return m else Meaning.union found
    | .barred members => do
      let found ← members.mapM (resolve scope fuel seen)
      if Meaning.sameAll found members then return m
      else match found with
        | [] => throw .senseless
        | first :: rest => rest.foldlM (fun acc m => acc.bar m) first
    | .annotated inner _ => resolve scope fuel seen inner
    | m => return m

/-- The meaning of a type in its surroundings, in the place of which null stands for its type. -/
def typeMeaning (around : Surroundings) (m : Meaning) : Reading Meaning :=
  match m with
  | .nothing => return .nullType
  | m => resolve (.whole around) maxTexts [] m

/-- The meaning of a type text in its surroundings. -/
def textMeaning (around : Surroundings) (s : String) : Reading Meaning := do
  resolve (.whole around) maxTexts [] (← Meaning.quote s)

end PagedTables.TypeText
