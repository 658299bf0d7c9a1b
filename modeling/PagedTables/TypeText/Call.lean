import PagedTables.TypeText.Attribute
import PagedTables.TypeText.Form

/-!
# Calls

The results of types and functions that are called in type texts: those that can give a type, a
text or an element of a collection, and those that answer a question. Of other results no more than
a type is known.
-/
namespace PagedTables.TypeText.Meaning

/-! ## Elements -/

/-- A meaning put where it belongs among meanings in increasing order. -/
def insertOrdered (m : Meaning) : List Meaning → Found (List Meaning)
  | [] => .ok [m]
  | x :: rest => do
    if ← relate .less m x then return m :: x :: rest
    else return x :: (← insertOrdered m rest)

/-- The meanings in increasing order, equal ones as they were. -/
def ordered (xs : List Meaning) : Found (List Meaning) :=
  xs.foldlM (fun acc x => insertOrdered x acc) []

/-- The first of the meanings that the relation puts before every other one. -/
def extreme (relation : Relation) (name : String) (arguments : List Meaning) : Found Meaning := do
  let xs ← match arguments with
    | [m] => m.elements
    | xs => .ok xs
  match xs with
  | [] => .error (.operand (name ++ "() arg is an empty sequence"))
  | x :: rest => rest.foldlM (fun best y => do
    if ← relate relation y best then return y else return best) x

/-- The elements of a collection with their numbers, from a first one on. -/
def numbered (first : Int) : List Meaning → List Meaning
  | [] => []
  | x :: rest => tuple [ofInt first, x] :: numbered (first + 1) rest

/-- The first elements of several collections side by side. -/
def rows (count : Nat) (columns : List (List Meaning)) : List Meaning :=
  match count with
  | 0 => []
  | count + 1 => tuple (columns.flatMap (List.take 1)) :: rows count (columns.map (List.drop 1))

/-- The elements of several collections side by side, as long as each has one. -/
def sideBySide (columns : List (List Meaning)) : List Meaning :=
  rows ((columns.map List.length).min?.getD 0) columns

/-- The elements of a collection for later, where those of some are only found then. -/
def source (m : Meaning) : Found (Except Flaw (List Meaning)) :=
  match m with
  | series _ xs => .ok xs
  | m => m.elements.map .ok

/-- The integers from one up to another in steps. -/
def range (start stop step : Int) : Found Meaning :=
  let count := ((stop - start).natAbs + step.natAbs - 1) / step.natAbs
  if step = 0 then .error (.operand "range() arg 3 must not be zero")
  else if maxRepeated < count then .ok (unknown "range")
  else .ok (series "range" (.ok ((Sequence.positions start stop step count).map ofInt)))

/-- The entries of a dictionary, or the pairs of a collection as entries. -/
def asEntries (m : Meaning) : Found (List (Meaning × Meaning)) :=
  match m with
  | dict entries => .ok entries
  | m => do
    (← m.elements).foldlM (fun acc pair => do
      match ← pair.elements with
      | [k, x] => if k.isKey then return insertEntry k x acc else unfit
      | xs => .error (.operand ("dictionary update sequence element #" ++ acc.length.repr ++
        " has length " ++ xs.length.repr ++ "; 2 is required"))) []

/-- The text that bytes below 128 spell. -/
def decoded (bs : List UInt8) : Meaning :=
  if bs.all (· < 0x80) then ofText (String.ofList (bs.map fun b => Char.ofNat b.toNat))
  else unknown "str"

/-- The bytes that integers stand for. -/
def asBytes (xs : List Meaning) : Found Meaning := do
  let bs ← xs.mapM fun x => match x.whole? with
    | some n =>
      if 0 ≤ n && n < 256 then .ok (UInt8.ofNat n.toNat)
      else .error (.operand "bytes must be in range(0, 256)")
    | none => unfit
  return value (.bytes bs)

/-- What was found, or another meaning if a flaw is what there is instead. -/
def orElse (flaw : Flaw) (other : Meaning) (found : Found Meaning) : Found Meaning :=
  match found with
  | .ok m => .ok m
  | .error e => if e = flaw then .ok other else .error e

/-! ## Types -/

/-- The value of a type that is made of the arguments. -/
def make (typeName : String) (arguments : List Meaning) : Found Meaning :=
  let listed (written : List Meaning → Meaning) : Found Meaning :=
    match arguments with
    | [] => .ok (written [])
    | [m] => m.elements.map written
    | _ => unfit
  let keyed (written : List Meaning → Meaning) : Found Meaning := do
    let xs ← match arguments with
      | [] => .ok []
      | [m] => m.elements
      | _ => unfit
    if areKeys xs then .ok (written (distinct xs)) else unfit
  match typeName, arguments with
  | "type", [m] => .ok (named m.typeName)
  | "str", [] => .ok (ofText "")
  | "str", [m] => .ok (((textOf? false m).map ofText).getD (unknown "str"))
  | "str", value (.bytes bs) :: _ => .ok (decoded bs)
  | "bool", [] => .ok (ofBool false)
  | "bool", [m] => .ok (ofBool m.isTruthy)
  | "int", [] => .ok (ofInt 0)
  | "int", [value v] => match v.toInteger with
    | .ok n => .ok (ofInt n)
    | .error .infinite => .error .overflow
    | .error fault => match fault.message? with
      | some message => .error (.operand message)
      | none => unfit
  | "int", [_] => unfit
  | "float", [] => .ok (value (.float (.ofInt 0)))
  | "map", ms => if ms.length < 2 then unfit else .ok (unknown "map")
  | "float", [m] => match m.ratio? with
    | some (n, d) => .ok (ofRatio n d)
    | none => if m.isFraction || m.asText?.isSome then .ok (unknown "float") else unfit
  | "bytes", [] => .ok (value (.bytes []))
  | "bytes", [m] => match m.whole?, m.asText? with
    | some n, _ =>
      if n < 0 then .error (.operand "negative count")
      else if maxRepeated < n then .ok (unknown "bytes")
      else .ok (value (.bytes (List.replicate n.toNat 0)))
    | none, some _ => unfit
    | none, none => do asBytes (← m.elements)
  | "bytes", m :: _ => (m.asText?.map fun s => value (.bytes s.toUTF8.toList)).elim unfit .ok
  | "tuple", _ => listed tuple
  | "list", _ => listed list
  | "set", _ => keyed set
  | "frozenset", _ => keyed fun xs => series "frozenset" (.ok xs)
  | "dict", [] => .ok (dict [])
  | "dict", [m] => m.asEntries.map dict
  | "dict", _ => unfit
  | "range", _ => match arguments.map whole? with
    | [some stop] => range 0 stop 1
    | [some start, some stop] => range start stop 1
    | [some start, some stop, some step] => range start stop step
    | _ => unfit
  | "reversed", [m] => match m with
    | set _ => unfit
    | series typeName xs =>
      if typeName ≠ "frozenset" && countedTypes.contains typeName then
        .ok (series "reversed" (xs.map List.reverse))
      else unfit
    | m => m.elements.map fun xs => series "reversed" (.ok xs.reverse)
  | "enumerate", [m] => do return series "enumerate" ((← source m).map (numbered 0))
  | "zip", ms => do
    let columns ← ms.mapM source
    return series "zip" ((columns.mapM id).map sideBySide)
  | "type", [] => unfit
  | "type", [_, _] => unfit
  | "object", _ :: _ => unfit
  | "NoneType", [] => .ok nothing
  | "NoneType", _ => unfit
  | "Any", _ => unfit
  | name, _ => .ok (unknown name)

/-! ## Functions -/

/-- A type is derived from another type, or from one of several. -/
def isDerived (c : String) (others : Meaning) : Found Bool :=
  match others with
  | named d => .ok (((lineage? c).getD [named c, named "object"]).any (same (named d)))
  | tuple xs => anyDerived xs
  | barred xs => anyDerived xs
  | anyOf xs => anyDerived xs
  | _ => unfit
where
  /-- The type is derived from one of the types. -/
  anyDerived : List Meaning → Found Bool
    | [] => .ok false
    | x :: rest => do if ← isDerived c x then return true else anyDerived rest

/-- The functions that are known with all of their arguments. -/
def exactFunctions : List String :=
  ["len", "repr", "ascii", "callable", "abs", "any", "all", "max", "min", "iter", "next", "chr",
    "ord", "divmod", "isinstance", "issubclass", "getattr", "hasattr", "bin", "oct", "hex",
    "format", "round"]

/-- An integer in a base behind the mark of the base. -/
def written (base : Nat) (mark : String) (n : Int) : Found Meaning :=
  .ok (ofText ((if n < 0 then "-" else "") ++ mark ++ String.ofList (Nat.toDigits base n.natAbs)))

/-- The integer that is nearest to a quotient, the even one of two. -/
def nearest (n : Int) (d : Nat) : Int :=
  let twice := 2 * n + d
  let q := twice.fdiv (2 * d)
  if twice.fmod (2 * d) = 0 && q % 2 = 1 then q - 1 else q

/-- The result of a function that is known by its name. -/
def applyFunction (name : String) (arguments : List Meaning) : Found Meaning :=
  match name, arguments with
  | "len", [m] => match m with
    | applied .. => unfit
    | series typeName xs =>
      if countedTypes.contains typeName then xs.map fun xs => ofInt xs.length else unfit
    | m => m.elements.map fun xs => ofInt xs.length
  | "repr", [m] => .ok (((textOf? true m).map ofText).getD (unknown "str"))
  | "ascii", [m] => .ok (((m.markedText? 'a').map ofText).getD (unknown "str"))
  | "callable", [m] => .ok (ofBool (m.typeName == "type" || m.typeName == "function" ||
      m.typeName == "builtin_function_or_method"))
  | "abs", [m] => match m.whole? with
    | some n => .ok (ofInt n.natAbs)
    | none => if m.isFraction then .ok m else unfit
  | "any", [m] => do return ofBool ((← m.elements).any isTruthy)
  | "all", [m] => do return ofBool ((← m.elements).all isTruthy)
  | "sum", [m] => do (← m.elements).foldlM plus (ofInt 0)
  | "sorted", [m] => do return list (← ordered (← m.elements))
  | "max", _ :: _ => extreme .greater name arguments
  | "min", _ :: _ => extreme .less name arguments
  | "iter", [series typeName xs] =>
    .ok (series (if countedTypes.contains typeName then "iterator" else typeName) xs)
  | "iter", [m] => m.elements.map fun xs => series "iterator" (.ok xs)
  | "next", series typeName xs :: default => do
    match countedTypes.contains typeName, ← xs, default with
    | false, x :: _, _ => return x
    | false, [], [x] => return x
    | false, [], [] => throw .exhausted
    | _, _, _ => unfit
  | "chr", [m] => match m.whole? with
    | some n =>
      if n < 0 || 0x110000 ≤ n then .error (.operand "chr() arg not in range(0x110000)")
      else .ok (ofText (String.singleton (Char.ofNat n.toNat)))
    | none => unfit
  | "ord", [m] => match m, m.asText?.map String.toList with
    | value (.bytes [b]), _ => .ok (ofInt b.toNat)
    | _, some [c] => .ok (ofInt c.toNat)
    | _, _ => unfit
  | "bin", [m] => m.whole?.elim unfit (written 2 "0b")
  | "oct", [m] => m.whole?.elim unfit (written 8 "0o")
  | "hex", [m] => m.whole?.elim unfit (written 16 "0x")
  | "round", [m] => match m.ratio? with
    | some (n, d) => .ok (ofInt (nearest n d))
    | none => if m.isFraction then .ok (unknown "int") else unfit
  | "round", [m, nothing] => match m.ratio? with
    | some (n, d) => .ok (ofInt (nearest n d))
    | none => if m.isFraction then .ok (unknown "int") else unfit
  | "round", [m, n] =>
    if m.isNumber && n.whole?.isSome then .ok (unknown m.typeName) else unfit
  | "format", [m] => (m.inForm "").map ofText
  | "format", [m, form] => form.asText?.elim unfit fun form => (m.inForm form).map ofText
  | "divmod", [m, n] => do
    return tuple [← operate .floor m n, ← operate .remainder m n]
  | "pow", [m, n] => power m n
  | "isinstance", [_, named "Any"] => unfit
  | "isinstance", [m, others] => (isDerived m.typeName others).map ofBool
  | "issubclass", [named c, others] => (isDerived c others).map ofBool
  | "issubclass", [applied head _, others] =>
    if head = "List" then unfit else (isDerived head others).map ofBool
  | "getattr", m :: key :: default => match key.asText?, default with
    | some key, [] => m.member key
    | some key, [x] => orElse .noAttribute x (m.member key)
    | _, _ => unfit
  | "hasattr", [m, key] => match key.asText? with
    | some key => orElse .noAttribute (ofBool false) ((m.member key).map fun _ => ofBool true)
    | none => unfit
  | "__import__", m :: _ => match m.asText? with
    | some s => .ok (object "module" s)
    | none => unfit
  | name, _ =>
    if exactFunctions.contains name then unfit else .ok (unknown "object")

end PagedTables.TypeText.Meaning
