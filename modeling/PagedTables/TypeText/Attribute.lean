import PagedTables.TypeText.Operation

/-!
# Names and attributes of meanings

What the names that every program knows stand for, and what a name after a point stands for: facts
about types where the result can be a type or a text, and methods elsewhere.
-/
namespace PagedTables.TypeText.Meaning

/-- The ways to build types. -/
def builders : List (String × Meaning) :=
  [("Optional", builder "Optional"), ("Union", builder "Union"), ("List", builder "List"),
    ("Any", named "Any")]

/-- A text of prose, which spells no type. -/
def prose : Meaning :=
  ofText "description of values"

/-- What is said about the place of the names that every program knows. -/
def knownFacts : List (String × Meaning) :=
  [("__name__", ofText "builtins"), ("__doc__", prose), ("__package__", ofText ""),
    ("__loader__", object "type" "BuiltinImporter"), ("__spec__", object "ModuleSpec" "builtins")]

/-- What the name of a thing that every program knows stands for. -/
def known? (name : String) : Option Meaning :=
  match typeOfName? name with
  | some name => some (named name)
  | none =>
    if functionNames.contains name then some (object "builtin_function_or_method" name)
    else if name = Tree.fixedName then some (ofBool true)
    else match objectNames.lookup name with
      | some typeName => some (object typeName name)
      | none => knownFacts.lookup name

/-- Names between two low lines on both sides are those of the grammar itself. -/
def isSpecialName (name : String) : Bool :=
  let cs := name.toList
  "__".toList.isPrefixOf cs && "__".toList.isPrefixOf cs.reverse

/-- A value whose attributes a meaning has in place of its own. -/
def standIn? : Meaning → Option Meaning
  | builder "List" => some (named "list")
  | applied "List" _ => some (named "list")
  | applied head _ => some (named head)
  | anyOf _ => some (builder "Union")
  | _ => none

/-- The attributes of forms that only the single object has. -/
def formAttributes : Meaning → List String
  | builder "List" =>
    ["__origin__", "_name", "_inst", "_nparams", "__name__", "__qualname__"]
  | builder _ => ["__name__", "__qualname__", "_name", "_getitem"]
  | applied "List" _ => ["__origin__", "__args__", "__parameters__", "_name", "_inst", "__name__",
      "__qualname__"]
  | anyOf _ => ["__origin__", "__args__", "__parameters__", "_name", "_inst", "__name__",
      "__qualname__"]
  | _ => []

/-- Whether a meaning has an attribute itself. -/
def hasOwn (m : Meaning) (name : String) : Bool :=
  match m with
  | named c => hasAttribute c name ||
      (hasAttribute "type" name && (name != "__annotations__" || c == "Any"))
  | m => hasAttribute m.typeName name || m.formAttributes.contains name

/-- The types that a type is derived from, beginning with itself, unless it is one of failures. -/
def lineage? (c : String) : Option (List Meaning) :=
  if failureTypes.contains c then none
  else if c = "object" then some [named c]
  else if c = "bool" then some [named c, named "int", named "object"]
  else some [named c, named "object"]

/-- An attribute of a module, as far as they are known. -/
def moduleMember (module name : String) : Found Meaning :=
  if module = "typing" then
    match (("Text", named "str") :: builders).lookup name with
    | some m => .ok m
    | none => if buildingNames.contains name then .ok (unknown "object") else .error .noAttribute
  else if module = "builtins" then (known? name).elim (.error .noAttribute) .ok
  else .ok (unknown "object")

/-- The attribute of a type that tells what it is derived from. -/
def lineageMember? (c name : String) : Option Meaning := do
  let types ← lineage? c
  match name with
  | "__mro__" => some (tuple types)
  | "__bases__" => some (tuple ((types.drop 1).take 1))
  | "__base__" => some ((types.drop 1).headD nothing)
  | _ => none

/-- What an attribute that a meaning has itself stands for. -/
def ownMember (m : Meaning) (name : String) : Meaning :=
  match m, name with
  | named c, "__name__" => ofText c
  | named c, "__qualname__" => ofText c
  | named "Any", "__module__" => ofText "typing"
  | named _, "__module__" => ofText "builtins"
  | named c, name => ((lineageMember? c name).getD
      (if name = "__class__" then named m.typeName
      else if name = "__doc__" then (if c = "NoneType" then nothing else prose)
      else .method m name))
  | builder c, "__name__" => ofText c
  | builder c, "__qualname__" => ofText c
  | object "builtin_function_or_method" c, "__name__" => ofText c
  | object "builtin_function_or_method" c, "__qualname__" => ofText c
  | method _ c, "__name__" => ofText c
  | anyOf xs, "__name__" => ofText (unionName xs)
  | anyOf xs, "__qualname__" => ofText (unionName xs)
  | applied "List" _, "__name__" => ofText "List"
  | applied "List" _, "__qualname__" => ofText "List"
  | applied "List" _, "__origin__" => named "list"
  | applied head _, "__origin__" => named head
  | builder "List", "__origin__" => named "list"
  | anyOf _, "__origin__" => builder "Union"
  | applied _ xs, "__args__" => tuple xs
  | anyOf xs, "__args__" => tuple xs
  | barred xs, "__args__" => tuple xs
  | m, "__class__" => named m.typeName
  | nothing, "__doc__" => nothing
  | anyOf _, "__doc__" => nothing
  | applied "List" _, "__doc__" => nothing
  | function .., "__doc__" => nothing
  | details .., "__doc__" => nothing
  | object "_MISSING_TYPE" _, "__doc__" => nothing
  | object "_FIELD_BASE" _, "__doc__" => nothing
  | series "generator" _, "__doc__" => nothing
  | object "ellipsis" _, "__doc__" => nothing
  | object "NotImplementedType" _, "__doc__" => nothing
  | _, "__doc__" => prose
  | m, "real" => if m.isNumber then (m.whole?.map ofInt).getD m else .method m name
  | m, "numerator" => (m.whole?.map ofInt).getD (.method m name)
  | m, "denominator" => (m.whole?.map fun _ => ofInt 1).getD (.method m name)
  | m, "imag" => (m.whole?.map fun _ => ofInt 0).getD (unknown "float")
  | m, name => .method m name

/-- The attributes that a type applied to others has itself and not by the type. -/
def appliedAttributes : List String :=
  ["__class__", "__origin__", "__args__", "__parameters__", "__unpacked__",
    "__typing_unpacked_tuple_args__", "__mro_entries__", "__reduce__", "__reduce_ex__"]

/-- The attribute of a value by its type, which may be that of another value. -/
def typeMember (m : Meaning) (name : String) : Found Meaning :=
  let own (m : Meaning) : Found Meaning :=
    if m.hasOwn name then .ok (m.ownMember name) else .error .noAttribute
  match m, m.standIn? with
  | applied "List" _, some other =>
    if m.hasOwn name || isSpecialName name then own m else own other
  | applied .., some other => if appliedAttributes.contains name then own m else own other
  | _, some other => if m.hasOwn name || isSpecialName name then own m else own other
  | _, none => own m

/-- The attribute of a meaning. -/
def member (m : Meaning) (name : String) : Found Meaning :=
  match m with
  | object "module" module => moduleMember module name
  | details _ _ attributes => (attributes.lookup name).elim (m.typeMember name) .ok
  | m => m.typeMember name

end PagedTables.TypeText.Meaning
