import PagedTables.Text.Bytes
import PagedTables.TypeText.Call
import PagedTables.TypeText.TextMethod

/-!
# Methods

The results of methods in type texts, and of everything that is called. A method that is named for
an operator gives its result if the operator has one for operands of these types. A method of a type
takes the value first that it is a method of.
-/
namespace PagedTables.TypeText.Meaning

/-! ## Methods that are named for operators -/

/-- The operators between two operands that methods are named for. -/
def operatorNames : List (String × Operator) :=
  [("or", .bar), ("xor", .caret), ("and", .ampersand), ("lshift", .shiftLeft),
    ("rshift", .shiftRight), ("add", .plus), ("sub", .minus), ("mul", .times),
    ("truediv", .divide), ("floordiv", .floor), ("mod", .remainder), ("pow", .power)]

/-- The relations that methods are named for. -/
def relationNames : List (String × Relation) :=
  [("eq", .equal), ("ne", .notEqual), ("lt", .less), ("le", .lessEqual), ("gt", .greater),
    ("ge", .greaterEqual)]

/-- What a method gives that has no result for its operand. -/
def noResult : Meaning :=
  object "NotImplementedType" "NotImplemented"

/-- Operands that a method that is named for an operator is made for. -/
def isOperand (m x : Meaning) : Bool :=
  match m.whole?, m with
  | some _, _ => x.whole?.isSome
  | none, named _ => x.isBarrable
  | none, applied "List" _ => true
  | none, applied .. => x.isBarrable
  | none, barred _ => x.isBarrable
  | none, m => if m.isFraction then x.isNumber || x.isFraction else
      match m with
      | set _ => x.typeName = "set"
      | dict _ => x.typeName = "dict"
      | _ => true

/-- The other methods that are named between two low lines and take a number of arguments. -/
def countedSpecials : List String :=
  ["getitem", "class_getitem", "contains", "len", "iter", "next", "abs", "str", "repr", "format",
    "bool", "neg", "pos", "invert", "index", "int", "float"]

/-- The result of a method that is named between two low lines on both sides. -/
def special? (m : Meaning) (name : String) (arguments : List Meaning) : Option (Found Meaning) :=
  let shown (isDisplay : Bool) : Found Meaning :=
    .ok (((textOf? isDisplay m).map ofText).getD (unknown "str"))
  match name, arguments with
  | "getitem", [index] => some (m.entry index)
  | "class_getitem", [index] => some ((match m with
    | named _ => m
    | m => named m.typeName).apply index)
  | "contains", [x] => some ((x.isAmong m).map ofBool)
  | "len", [] => some (applyFunction "len" [m])
  | "iter", [] => some (applyFunction "iter" [m])
  | "next", [] => some (applyFunction "next" [m])
  | "abs", [] => some (applyFunction "abs" [m])
  | "str", [] => some (shown false)
  | "repr", [] => some (shown true)
  | "format", [form] => some (applyFunction "format" [m, form])
  | "bool", [] => some (.ok (ofBool m.isTruthy))
  | "neg", [] => some (sign .minus m)
  | "pos", [] => some (sign .plus m)
  | "invert", [] => some (sign .complement m)
  | "index", [] => some (m.whole?.elim unfit fun n => .ok (ofInt n))
  | "int", [] => some (make "int" [m])
  | "float", [] => some (make "float" [m])
  | "new", named c :: arguments => some (make c arguments)
  | "init", _ => some (.ok nothing)
  | "setitem", _ => some (.ok nothing)
  | "delitem", _ => some (.ok nothing)
  | name, arguments =>
    let between (found : Meaning → Found Meaning) : Found Meaning := match arguments with
      | [x] => found x
      | _ => unfit
    match operatorNames.lookup name, relationNames.lookup name, name.toList with
    | some op, _, _ => some (between fun x =>
        if m.isOperand x then operate op m x else .ok noResult)
    | none, some r, _ => some (between fun x =>
        if x.typeName = m.typeName then (relate r m x).map ofBool else .ok noResult)
    | none, none, 'r' :: rest =>
      match operatorNames.lookup (String.ofList rest), countedSpecials.contains name with
      | some op, _ => some (between fun x =>
          if m.isOperand x then operate op x m else .ok noResult)
      | none, true => some unfit
      | none, false => none
    | none, none, _ => if countedSpecials.contains name then some unfit else none

/-! ## Methods of collections and bytes -/

/-- The methods that change the value they belong to, and give nothing. -/
def changingMethods : List String :=
  ["append", "extend", "insert", "clear", "reverse", "sort", "add", "discard", "update",
    "difference_update", "intersection_update", "symmetric_difference_update"]

/-- The types that a type is derived from. -/
def lineageOf (m : Meaning) : Found Meaning :=
  match m with
  | named c => .ok (((lineage? c).map list).getD (unknown "list"))
  | _ => unfit

/-- The place of the first element that is equal to a meaning. -/
def placeIn (xs : List Meaning) (m : Meaning) (message : String) : Found Meaning :=
  (xs.findIdx? (same m)).elim (.error (.operand message)) fun i => .ok (ofInt i)

/-- The result of a method of a collection. -/
def applyToCollection (m : Meaning) (name : String) (arguments : List Meaning) : Found Meaning :=
  match m, name, arguments with
  | dict entries, "keys", [] => .ok (series "dict_keys" (.ok (entries.map Prod.fst)))
  | dict entries, "values", [] => .ok (series "dict_values" (.ok (entries.map Prod.snd)))
  | dict entries, "items", [] =>
    .ok (series "dict_items" (.ok (entries.map fun (k, x) => tuple [k, x])))
  | dict _, "get", [key] => orElse .noKey nothing (m.entry key)
  | dict _, "get", [key, x] => orElse .noKey x (m.entry key)
  | dict _, "get", _ => unfit
  | dict _, "setdefault", [key] => orElse .noKey nothing (m.entry key)
  | dict _, "setdefault", [key, x] => orElse .noKey x (m.entry key)
  | dict _, "pop", [key] => m.entry key
  | dict _, "pop", [key, x] => orElse .noKey x (m.entry key)
  | dict entries, "popitem", [] => entries.getLast?.elim (.error .noKey) fun (k, x) =>
    .ok (tuple [k, x])
  | list xs, "pop", [] => xs.getLast?.elim (.error .noIndex) .ok
  | list _, "pop", [index] => m.entry index
  | list xs, "index", [x] =>
    placeIn xs x (((textOf? true x).getD x.typeName) ++ " is not in list")
  | list xs, "count", [x] => .ok (ofInt (xs.filter (same x)).length)
  | tuple xs, "index", [x] => placeIn xs x "tuple.index(x): x not in tuple"
  | tuple xs, "count", [x] => .ok (ofInt (xs.filter (same x)).length)
  | set xs, "pop", [] => xs.head?.elim (.error .noKey) .ok
  | m, "copy", [] => .ok m
  | m, "mro", [] => lineageOf m
  | list _, "index", [] => unfit
  | list _, "count", _ => unfit
  | tuple _, "index", [] => unfit
  | tuple _, "count", _ => unfit
  | m, name, _ =>
    if ["list", "dict", "set"].contains m.typeName && changingMethods.contains name then .ok nothing
    else .ok (unknown "object")

/-- The text of the same characters as bytes below 128. -/
def asciiText? (bs : List UInt8) : Option (List Char) :=
  if bs.all (· < 0x80) then some (bs.map fun b => Char.ofNat b.toNat) else none

/-- The text that an argument of a method of bytes stands for, if it is one of bytes; in a search
an integer stands for a byte. -/
def spelled (isSearch : Bool) : Meaning → Found Meaning
  | value (.bytes bs) => (asciiText? bs).elim unfit fun cs => .ok (ofChars cs)
  | m => match isSearch, m.whole? with
    | true, some n =>
      if 0 ≤ n && n < 256 then .ok (ofChars [Char.ofNat n.toNat])
      else .error (.operand "byte must be in range(0, 256)")
    | _, _ => if m.asText?.isSome then unfit else .ok m

/-- The bytes that a text stands for as the result of a method of bytes. -/
def unspelled (m : Meaning) : Meaning :=
  match m.asText? with
  | some s => value (.bytes s.toUTF8.toList)
  | none => m

/-- The result of a method of bytes, which is that of the same text if all of them are ASCII. -/
def applyToBytes (bs : List UInt8) (name : String) (arguments : List Meaning) (named : Bindings) :
    Found Meaning := do
  match name, arguments, asciiText? bs with
  | "decode", _, _ => return decoded bs
  | "hex", [], _ => return ofText (Bytes.toHex bs)
  | "hex", _, _ => return unknown "str"
  | "translate", [nothing], _ => return value (.bytes bs)
  | "translate", [value (.bytes table)], _ =>
    if table.length = 256 then return unknown "bytes"
    else throw (.operand "translation table must be 256 characters long")
  | "translate", _, _ => unfit
  | "join", [m], _ => do
    let pieces ← (← m.elements).mapM fun m => match m with
      | value (.bytes bs) => .ok bs
      | _ => unfit
    return value (.bytes (bs.intercalate pieces))
  | name, arguments, some cs => do
    let isSearch := searchMethods.contains name
    let first ← (arguments.take 1).mapM (spelled isSearch)
    let rest ← (arguments.drop 1).mapM (spelled false)
    let named ← named.mapM fun (key, m) => do return (key, ← spelled false m)
    return match ← applyToText cs name (first ++ rest) named with
      | tuple xs => tuple (xs.map unspelled)
      | list xs => list (xs.map unspelled)
      | m => unspelled m
  | name, _, none => return unknown (if (answered? name []).isSome then "bool" else "bytes")

/-! ## Calls of methods -/

/-- The methods that belong to a type itself and not to its values. -/
def classMethods : List String :=
  ["__class_getitem__", "__new__", "__init_subclass__", "__subclasshook__", "__prepare__",
    "__getformat__", "fromkeys", "fromhex", "from_bytes", "maketrans"]

/-- The name between the two low lines on both sides of it. -/
def specialName? (name : String) : Option String :=
  let cs := name.toList
  if isSpecialName name && 4 < cs.length then
    some (String.ofList ((cs.drop 2).take (cs.length - 4)))
  else none

/-- The result of a method of a value. -/
def applyOwn (m : Meaning) (name : String) (arguments : List Meaning) (named : Bindings) :
    Found Meaning :=
  match (specialName? name).bind fun name => special? m name arguments, m.asText?, m with
  | some found, _, _ => found
  | none, some s, _ =>
    if isSpecialName name then .ok (unknown "object")
    else applyToText s.toList name arguments named
  | none, none, value (.bytes bs) =>
    if isSpecialName name then .ok (unknown "object") else applyToBytes bs name arguments named
  | none, none, m => applyToCollection m name (arguments ++ named.map Prod.snd)

/-- The result of a method. A type finds the methods of its values before its own. -/
def applyMethod (receiver : Meaning) (name : String) (arguments : List Meaning)
    (given : Bindings) : Found Meaning :=
  match receiver with
  | named c =>
    if classMethods.contains name || !hasAttribute c name then
      applyOwn receiver name arguments given
    else match arguments with
      | [] => unfit
      | m :: rest => do
        if m.typeName = c || (c = "int" && m.typeName = "bool") then applyOwn m name rest given
        else if ← isDerived m.typeName receiver then return unknown "object"
        else unfit
  | _ => applyOwn receiver name arguments given

/-- The result of a call with arguments by position and by name. -/
def call (m : Meaning) (arguments : List Meaning) (given : Bindings) : Found Meaning :=
  let all := arguments ++ given.map Prod.snd
  match m with
  | named name => make name all
  | applied "List" _ => unfit
  | applied head _ => make head all
  | object "builtin_function_or_method" name => applyFunction name all
  | object typeName _ => if typeName = "object" then .ok (unknown "object") else unfit
  | method receiver name => applyMethod receiver name arguments given
  | _ => unfit

end PagedTables.TypeText.Meaning
