import PagedTables.TypeText.Names
import PagedTables.TypeText.Tree
import PagedTables.Value.Equality
import PagedTables.Value.Integer
import PagedTables.Value.Text

/-!
# Meanings of type texts

What a type text stands for: most often a type, a type applied to others, or an alternative of
types, but any other value too. A text in the place of a type stands for what it spells in turn;
until that is found it is kept as it is.

Alternatives come in two forms. The one that is built by name takes anything for a member that can
stand for a type; the one that is built with a bar takes types only.
-/
namespace PagedTables.TypeText

/-- Why a type text has no meaning. -/
inductive Flaw where
  /-- A name is not known, or an operation is applied to values that do not have it. -/
  | senseless
  /-- The text is no expression. -/
  | malformed
  /-- The text holds a character that no text of a program holds. -/
  | nullCharacter
  | noAttribute
  /-- There is no next element. -/
  | exhausted
  | noIndex
  | noKey
  | zeroDivision
  | overflow
  /-- A result is too large to be held. -/
  | tooLarge
  /-- An operation has no result for its operands, as its message says. -/
  | operand (message : String)
  deriving DecidableEq

/-- A meaning. -/
inductive Meaning where
  /-- Null, which stands for its own type in the place of a type. -/
  | nothing
  /-- A number, a text, or another value that holds no types. -/
  | value (v : Value)
  /-- A type. -/
  | named (name : String)
  /-- A type applied to others. -/
  | applied (head : String) (arguments : List Meaning)
  /-- A value of one of the given types, built by name. -/
  | anyOf (members : List Meaning)
  /-- A value of one of the given types, built with a bar. -/
  | barred (members : List Meaning)
  /-- A way to build types, which is no type by itself. -/
  | builder (name : String)
  /-- A type with notes about it. -/
  | annotated (inner : Meaning) (notes : List Meaning)
  /-- A text in the place of a type. -/
  | quoted (text : String)
  /-- A function or another object of a type, of which no more than a name is known. -/
  | object (typeName name : String)
  /-- An object of a type with a name among those of its type, and some of its attributes. -/
  | details (typeName name : String) (attributes : List (String × Meaning))
  /-- An attribute of a value that can only be called. -/
  | method (receiver : Meaning) (name : String)
  /-- A function of a text: its parameters with their defaults, the expression of its results, and
  the names that were bound around it. -/
  | function (parameters : List (String × ParameterKind × Option Meaning)) (body : Tree)
    (around : List (String × Meaning))
  /-- The elements of another collection, or what goes wrong before they are all found. -/
  | series (typeName : String) (elements : Except Flaw (List Meaning))
  | tuple (xs : List Meaning)
  | list (xs : List Meaning)
  | set (xs : List Meaning)
  | dict (entries : List (Meaning × Meaning))

/-- A meaning, or why there is none. -/
abbrev Found (α : Type) := Except Flaw α

namespace Meaning

/-- The type of null. -/
def nullType : Meaning :=
  named "NoneType"

/-- A text. -/
def ofText (s : String) : Meaning :=
  value (.text s)

/-- An integer. -/
def ofInt (n : Int) : Meaning :=
  value (.int n)

/-- A truth value. -/
def ofBool (b : Bool) : Meaning :=
  value (.bool b)

/-- The meaning of a value, whose elements are meanings too if it is a tuple. -/
def ofValue : Value → Meaning
  | .null => nothing
  | .tuple xs => tuple (ofValues xs)
  | .list xs => list (ofValues xs)
  | v => value v
where
  /-- The meanings of values. -/
  ofValues : List Value → List Meaning
    | [] => []
    | x :: rest => ofValue x :: ofValues rest

/-- The name of the type of a meaning. -/
def typeName : Meaning → String
  | nothing => "NoneType"
  | value v => v.typeName
  | named "Any" => "_AnyMeta"
  | named _ => "type"
  | applied "List" _ => "_GenericAlias"
  | applied .. => "GenericAlias"
  | anyOf _ => "_UnionGenericAlias"
  | barred _ => "UnionType"
  | builder "List" => "_SpecialGenericAlias"
  | builder _ => "_SpecialForm"
  | annotated .. => "_AnnotatedAlias"
  | quoted _ => "ForwardRef"
  | object typeName _ => typeName
  | details typeName _ _ => typeName
  | method .. => "builtin_function_or_method"
  | function .. => "function"
  | series typeName _ => typeName
  | tuple _ => "tuple"
  | list _ => "list"
  | set _ => "set"
  | dict _ => "dict"

/-- The text that a meaning is. -/
def asText? : Meaning → Option String
  | value v => v.asText?
  | _ => none

/-- The types of collections that are no sequences in memory but have a length. -/
def countedTypes : List String :=
  ["range", "dict_keys", "dict_values", "dict_items", "frozenset"]

/-- Whether a meaning counts as true. -/
def isTruthy : Meaning → Bool
  | nothing => false
  | value v => v.isTruthy
  | tuple xs => !xs.isEmpty
  | list xs => !xs.isEmpty
  | set xs => !xs.isEmpty
  | dict entries => !entries.isEmpty
  | series typeName (.ok []) => !countedTypes.contains typeName
  | _ => true

mutual

/-- Equality of meanings: alternatives are equal in whichever form if they have equal members. -/
def same (a b : Meaning) : Bool :=
  match a with
  | nothing => match b with
    | nothing => true
    | _ => false
  | value x => match b with
    | value y => x.sameKey y
    | _ => false
  | named x => match b with
    | named y => x == y
    | _ => false
  | applied x xs => match b with
    | applied y ys => x == y && sameAll xs ys
    | _ => false
  | anyOf xs => match b with
    | anyOf ys => allAmong xs ys && ys.all (anySame xs)
    | barred ys => allAmong xs ys && ys.all (anySame xs)
    | _ => false
  | barred xs => match b with
    | anyOf ys => allAmong xs ys && ys.all (anySame xs)
    | barred ys => allAmong xs ys && ys.all (anySame xs)
    | _ => false
  | builder x => match b with
    | builder y => x == y
    | _ => false
  | annotated x xs => match b with
    | annotated y ys => same x y && sameAll xs ys
    | _ => false
  | quoted x => match b with
    | quoted y => x == y
    | _ => false
  | object t x => match b with
    | object u y => t == u && x == y
    | _ => false
  | details t x _ => match b with
    | details u y _ => t == u && x == y
    | _ => false
  | method m x => match b with
    | method n y => x == y && same m n
    | _ => false
  | function .. => false
  | series .. => false
  | tuple xs => match b with
    | tuple ys => sameAll xs ys
    | _ => false
  | list xs => match b with
    | list ys => sameAll xs ys
    | _ => false
  | set xs => match b with
    | set ys => allAmong xs ys && ys.all (anySame xs)
    | _ => false
  | dict xs => match b with
    | dict ys => xs.length == ys.length && sameEntries xs ys
    | _ => false

/-- Equality of lists of meanings, one by one. -/
def sameAll : List Meaning → List Meaning → Bool
  | [], ys => ys.isEmpty
  | x :: xs, ys => match ys with
    | [] => false
    | y :: ys => same x y && sameAll xs ys

/-- Every meaning of the first list is equal to one of the second. -/
def allAmong : List Meaning → List Meaning → Bool
  | [], _ => true
  | x :: xs, ys => ys.any (same x) && allAmong xs ys

/-- One of the meanings is equal to the given one. -/
def anySame : List Meaning → Meaning → Bool
  | [], _ => false
  | x :: xs, y => same x y || anySame xs y

/-- Every entry of the first list is equal to one of the second. -/
def sameEntries : List (Meaning × Meaning) → List (Meaning × Meaning) → Bool
  | [], _ => true
  | (k, v) :: rest, ys =>
    (ys.any fun (l, w) => same k l && same v w) && sameEntries rest ys

end

mutual

/-- A meaning that can be looked up: a collection that may change holds none. -/
def isKey : Meaning → Bool
  | value v => v.isKey
  | applied _ xs => areKeys xs
  | anyOf xs => areKeys xs
  | barred xs => areKeys xs
  | annotated x xs => isKey x && areKeys xs
  | tuple xs => areKeys xs
  | list _ => false
  | set _ => false
  | dict _ => false
  | object t _ => t != "slice"
  | series t _ => t != "dict_keys" && t != "dict_items"
  | _ => true

/-- All of the meanings can be looked up. -/
def areKeys : List Meaning → Bool
  | [] => true
  | x :: xs => isKey x && areKeys xs

end

/-- The meanings without later repetitions. -/
def distinct (xs : List Meaning) : List Meaning :=
  (xs.foldl (fun seen x => if seen.any (same x) then seen else x :: seen) []).reverse

/-- The entries with one more, which takes the place of an equal key's entry and keeps that key. -/
def insertEntry (key x : Meaning) : List (Meaning × Meaning) → List (Meaning × Meaning)
  | [] => [(key, x)]
  | (k, v) :: rest => if same k key then (k, x) :: rest else (k, v) :: insertEntry key x rest

/-- The tree of a text in the place of a type; a star in front unpacks the only element. -/
def tree? (s : String) : Option Tree :=
  let cs := s.toList
  Tree.parse? (if cs.head? = some '*' then '(' :: cs ++ ",)[0]".toList else cs)

/-- A text in the place of a type, which has to be an expression. Its first character is looked at
before anything else, so that an empty text lacks what it is asked for. -/
def quote (s : String) : Found Meaning :=
  if s.isEmpty then .error .noIndex
  else if s.toList.contains '\x00' then .error .nullCharacter
  else if (tree? s).isSome then .ok (quoted s)
  else .error .malformed

/-- A meaning in the place of a type. -/
def asType (m : Meaning) : Found Meaning :=
  match m with
  | nothing => .ok nullType
  | builder "List" => .ok m
  | builder _ => .error .senseless
  | tuple _ => .error .senseless
  | m => match m.asText? with
    | some s => quote s
    | none => .ok m

/-- The members of alternatives among the meanings in their places. -/
def opened (members : List Meaning) : List Meaning :=
  members.flatMap fun m => match m with
    | anyOf inner => inner
    | barred inner => inner
    | m => [m]

/-- The alternative of some types, built by name; of one type it is that type. -/
def union (members : List Meaning) : Found Meaning := do
  let members := opened (← members.mapM asType)
  if !areKeys members then .error .senseless
  else match distinct members with
    | [] => .error .senseless
    | [m] => .ok m
    | members => .ok (anyOf members)

/-- A meaning that may stand beside a bar between types. -/
def isBarrable : Meaning → Bool
  | nothing => true
  | named _ => true
  | applied head _ => head != "List"
  | barred _ => true
  | _ => false

/-- A meaning that makes an alternative by name of a bar beside it. -/
def isForm : Meaning → Bool
  | builder _ => true
  | applied head _ => head == "List"
  | anyOf _ => true
  | annotated .. => true
  | quoted _ => true
  | _ => false

/-- Two types with a bar between them. -/
def bar (left right : Meaning) : Found Meaning :=
  match left, right with
  | nothing, nothing => .error .senseless
  | _, _ =>
    if left.isBarrable && right.isBarrable then
      let typed (m : Meaning) : Meaning := match m with
        | nothing => nullType
        | m => m
      match distinct ((opened [left, right]).map typed) with
      | [m] => .ok m
      | members => .ok (barred members)
    else if left.isForm || right.isForm then union [left, right]
    else .error .senseless

/-- The type of texts, alone or beside the type of null. -/
def isString : Meaning → Bool
  | named name => name == "str"
  | anyOf members => onlyText members
  | barred members => onlyText members
  | _ => false
where
  /-- Nothing but the type of texts is left without the type of null. -/
  onlyText (members : List Meaning) : Bool :=
    match members.filter fun m => !same m nullType with
    | [named name] => name == "str"
    | _ => false

end Meaning

end PagedTables.TypeText
