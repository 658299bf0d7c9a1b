import PagedTables.TypeText.Argument
import PagedTables.TypeText.Attribute

/-!
# Names around type texts

The names that a type text can use without binding them itself. First come those of the place where
the record type is declared that the text belongs to, then the attributes of that type, and last the
names that every program knows.

A record type has the defaults of its fields for attributes, and beside them what was made of its
declaration: the annotations and the fields by name, and the functions that make, show and compare
records.
-/
namespace PagedTables.TypeText

/-- What stands around the texts of a record type. -/
structure Surroundings where
  /-- The names of the place where the type is declared. -/
  place : Bindings
  /-- The attributes of the type. -/
  members : Bindings

/-- The dictionary of the meanings by name. -/
def Meaning.ofBindings (bindings : Bindings) : Meaning :=
  dict (bindings.foldl (fun acc (name, m) => insertEntry (ofText name) m acc) [])

/-- What a place says that its name is. -/
def nameOfPlace (place : Bindings) : Meaning :=
  (place.lookup "__name__").getD (.ofText "builtins")

/-- The names that every program knows with what they stand for. -/
def everyName : Bindings :=
  let known (names : List String) : Bindings :=
    names.filterMap fun name => (Meaning.known? name).map (name, ·)
  Meaning.knownFacts ++ known functionNames ++
    [("None", .nothing), ("False", .ofBool false), ("True", .ofBool true)] ++
    known (objectNames.map Prod.fst ++ plainTypes ++ failureTypes ++ typeAliases.map Prod.fst ++
      [Tree.fixedName])

/-- What a declaration in a record type makes. -/
inductive DeclarationKind where
  | field
  /-- A variable of the type. -/
  | classVariable
  /-- An argument that records are made with and that no field holds. -/
  | argument
  deriving DecidableEq

/-- The name of the mark of a kind. -/
def DeclarationKind.mark : DeclarationKind → String
  | field => "_FIELD"
  | classVariable => "_FIELD_CLASSVAR"
  | argument => "_FIELD_INITVAR"

/-- A declaration in a record type. -/
structure DeclaredField where
  kind : DeclarationKind
  name : String
  annotation : Meaning
  default : Option Meaning
  /-- The type of which each record gets a fresh value. -/
  factory : Option Meaning
  isGiven : Bool

/-- What stands in for a default that is not there. -/
def noDefault : Meaning :=
  .object "_MISSING_TYPE" "MISSING"

/-- The description of a field, whose attributes are all that was said about it. -/
def DeclaredField.description (f : DeclaredField) : Meaning :=
  .details "Field" f.name [
    ("name", .ofText f.name), ("type", f.annotation), ("default", f.default.getD noDefault),
    ("default_factory", f.factory.getD noDefault), ("init", .ofBool f.isGiven),
    ("repr", .ofBool true), ("hash", .nothing), ("compare", .ofBool true),
    ("kw_only", .ofBool true), ("metadata", .object "mappingproxy" f.name),
    ("_field_type", .object "_FIELD_BASE" f.kind.mark)]

/-- A function that was made for a record type. -/
def madeFunction (place : Bindings) (typeName name : String) (annotations : Bindings) : Meaning :=
  .details "function" name [
    ("__name__", .ofText name), ("__qualname__", .ofText (typeName ++ "." ++ name)),
    ("__module__", nameOfPlace place),
    ("__annotations__", .ofBindings annotations),
    ("__closure__", .nothing), ("__defaults__", .nothing), ("__dict__", .dict [])]

/-- The attributes of a record type of a name that texts can use as names. -/
def recordNames (place : Bindings) (typeName : String) (fields : List DeclaredField) : Bindings :=
  let annotated (fields : List DeclaredField) := fields.map fun f => (f.name, f.annotation)
  fields.filterMap (fun f => f.default.map (f.name, ·)) ++ [
    ("__annotations__", .ofBindings (annotated fields)),
    ("__module__", nameOfPlace place),
    ("__dict__", .object "getset_descriptor" "__dict__"),
    ("__weakref__", .object "getset_descriptor" "__weakref__"),
    ("__doc__", Meaning.prose),
    ("__dataclass_params__", .details "_DataclassParams" "" [
      ("init", .ofBool true), ("repr", .ofBool true), ("eq", .ofBool true),
      ("order", .ofBool false), ("unsafe_hash", .ofBool false), ("frozen", .ofBool false)]),
    ("__dataclass_fields__", .ofBindings (fields.map fun f => (f.name, f.description))),
    ("__init__", madeFunction place typeName "__init__"
      (annotated (fields.filter fun f => f.isGiven && f.kind ≠ .classVariable) ++
        [("return", .nothing)])),
    ("__repr__", madeFunction place typeName "__repr__" []),
    ("__eq__", madeFunction place typeName "__eq__" []),
    ("__hash__", .nothing),
    ("__match_args__", .tuple []),
    ("__builtins__", .ofBindings everyName)]

end PagedTables.TypeText
