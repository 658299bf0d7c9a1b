import PagedTables.Expr.Basic
import PagedTables.Schema.Annotation
import PagedTables.Schema.Item
import PagedTables.Schema.Naming

/-!
# Schemas

A record type declares fields; a schema joins it with a naming policy and answers three questions:
under which name the service knows a field, whether a field is a string, and which record an item
of the service becomes. Without a record type every field is accepted under its own name and items
stay as they are.

The name of a field is the one its declaration sets, if that is not empty, and else the attribute
name under the policy. Two fields may come to the same name; then items give it to the later one.

Records are made by a constructor, which can refuse: it calls methods of the type, in whose place
something else may have been declared, and it may ask for arguments that no field holds. Then no
item has a record.
-/
namespace PagedTables

/-- What a field holds when nothing is given for it. -/
inductive FieldDefault where
  | value (v : Value)
  | freshList
  | freshDict

/-- The value of a default. -/
def FieldDefault.toValue : FieldDefault → Value
  | value v => v
  | freshList => .list []
  | freshDict => .dict []

/-- A declared field. -/
structure Field where
  name : String
  annotation : Annotation
  wireName : Option String
  default : Option FieldDefault
  /-- Whether the field is given a value when a record is made. -/
  isGiven : Bool

namespace Field

/-- A record cannot be made without a value for the field. -/
def isRequired (f : Field) : Bool :=
  f.isGiven && f.default.isNone

/-- The field as texts of its type find it. -/
def declared (f : Field) : TypeText.DeclaredField where
  kind := .field
  name := f.name
  annotation := f.annotation.asDeclared
  default := match f.default with
    | some (.value v) => some (.ofValue v)
    | _ => none
  factory := match f.default with
    | some .freshList => some (.named "list")
    | some .freshDict => some (.named "dict")
    | _ => none
  isGiven := f.isGiven

/-- What the declaration of the field means. -/
def meaning (f : Field) (around : TypeText.Surroundings) : TypeText.Reading TypeText.Meaning :=
  f.annotation.meaning around

/-- The name under which a service knows the field. -/
def nameUnder (f : Field) (naming : Naming) : String :=
  match f.wireName with
  | some name => if name.isEmpty then naming.apply f.name else name
  | none => naming.apply f.name

end Field

/--
A declaration that makes no field: a variable of the type, or an argument that records are made with
and that no field holds.
-/
structure SideDeclaration where
  /-- How many fields are declared before it. -/
  index : Nat
  name : String
  annotation : Annotation
  /-- What the attribute of the name is set to. -/
  value : Option Value
  isArgument : Bool

/-- A record cannot be made without the argument. -/
def SideDeclaration.isRequired (d : SideDeclaration) : Bool :=
  d.isArgument && d.value.isNone

/-- What the declaration means. -/
def SideDeclaration.meaning (d : SideDeclaration) (around : TypeText.Surroundings) :
    TypeText.Reading TypeText.Meaning :=
  d.annotation.meaning around

/-- The declaration as texts of the type find it. -/
def SideDeclaration.declared (d : SideDeclaration) : TypeText.DeclaredField where
  kind := if d.isArgument then .argument else .classVariable
  name := d.name
  annotation := d.annotation.asDeclared
  default := d.value.map .ofValue
  factory := none
  isGiven := true

/-- A declared record type. -/
structure RecordType where
  name : String
  fields : List Field
  others : List SideDeclaration
  /-- The names of the place where the type is declared. -/
  place : TypeText.Bindings

namespace RecordType

/-- The field of a name. -/
def field? (t : RecordType) (name : String) : Option Field :=
  t.fields.find? fun f => f.name = name

/-- The names of the required fields. -/
def required (t : RecordType) : List String :=
  (t.fields.filter Field.isRequired).map Field.name

/-- The defaults of the fields that are values, by the names of their fields. -/
def defaults (t : RecordType) : List (String × Value) :=
  t.fields.filterMap fun f => match f.default with
    | some (.value v) => some (f.name, v)
    | _ => none

/-- The attributes that declarations set. -/
def attributes (t : RecordType) : List (String × Value) :=
  t.defaults ++ t.others.filterMap fun d => d.value.map (d.name, ·)

/-- The methods that are called when a record is made. -/
def makers : List String :=
  ["__new__", "__init__", "__post_init__"]

/--
Nothing stands in the place of a method that is called when a record is made. A value that does is
called in vain.
-/
def isMakeable (t : RecordType) : Bool :=
  !t.attributes.any fun set => makers.contains set.1

/--
The record that is made from the values given by name. A required field that is given none holds
null, and one that is not given at all its default.
-/
def construct (t : RecordType) (given? : String → Option Value) : Record where
  typeName := t.name
  fields := t.fields.map fun f =>
    let default := f.default.map FieldDefault.toValue
    let value :=
      if f.isGiven then
        match given? f.name with
        | some v => some v
        | none => if f.isRequired then some .null else default
      else default
    (f.name, value)

/-- The names of the arguments that records are made with. -/
def parameters (t : RecordType) : List String :=
  (t.fields.filter Field.isGiven).map Field.name ++
    (t.others.filter SideDeclaration.isArgument).map SideDeclaration.name

/-- The names of the arguments that records cannot be made without. -/
def demands (t : RecordType) : List String :=
  t.required ++ (t.others.filter SideDeclaration.isRequired).map SideDeclaration.name

/--
The record of given values, if records can be made, each value is for an argument, and no argument
that is demanded is left out.
-/
def record? (t : RecordType) (values : List (String × Value)) : Option Record :=
  if t.isMakeable && values.all (fun v => t.parameters.contains v.1) &&
      t.demands.all fun name => (values.lookup name).isSome then
    some (t.construct (values.lookup ·))
  else none

/--
The values with which a record is made of values by name: null for each required field without one,
and none for a name that is no field or that of a field that is given none.
-/
def arguments (t : RecordType) (values : List (String × Value)) : List (String × Value) :=
  let missing := t.required.filter fun name => (values.lookup name).isNone
  (values ++ missing.map (·, Value.null)).filter fun v => (t.field? v.1).any Field.isGiven

/-- The record of values by name, of which those for no field are dropped. -/
def ofValues? (t : RecordType) (values : List (String × Value)) : Option Record :=
  t.record? (t.arguments values)

/-- The names of the fields that satisfy a condition. -/
def namesWhere (t : RecordType) (p : Field → Bool) : List String :=
  (t.fields.filter p).map Field.name

/-- The declarations without a field that stand right before the field of a number. -/
def sidesAt (t : RecordType) (index : Nat) : List SideDeclaration :=
  t.others.filter fun d => d.index = index

/-- The declarations without a field that stand behind all fields. -/
def lastSides (t : RecordType) : List SideDeclaration :=
  t.others.filter fun d => t.fields.length ≤ d.index

/-- What stands around the texts of the declarations. -/
def around (t : RecordType) : TypeText.Surroundings where
  place := t.place
  members :=
    let declared := t.fields.zipIdx.flatMap fun (f, i) =>
      (t.sidesAt i).map SideDeclaration.declared ++ [f.declared]
    TypeText.recordNames t.place t.name (declared ++ t.lastSides.map SideDeclaration.declared)

/-- Reads declarations only for what their texts bind. -/
def readSides (t : RecordType) (sides : List SideDeclaration) : TypeText.Reading Unit := do
  let _ ← sides.mapM fun d => d.meaning t.around
  return ()

/-- The meaning of the declaration of a field, which is read behind the others before it. -/
def readField (t : RecordType) (entry : Field × Nat) : TypeText.Reading TypeText.Meaning := do
  t.readSides (t.sidesAt entry.2)
  entry.1.meaning t.around

/-- Reads all declarations in their order, for the meanings of those of the fields. -/
def readAll (t : RecordType) : TypeText.Reading (List TypeText.Meaning) := do
  let found ← t.fields.zipIdx.mapM t.readField
  t.readSides t.lastSides
  return found

/--
The meanings of the declarations in the order of the fields. What a text binds is known to the texts
after it.
-/
def meanings (t : RecordType) : TypeText.Found (List TypeText.Meaning) :=
  t.readAll.run' .none

/--
The names of the fields that are strings: by the meanings of the declarations if each of them has
one, and otherwise as they are written. The first declaration without a meaning decides: a text
that is no expression, and one whose evaluation fails, leaves the whole type without an answer.
-/
def stringNames (t : RecordType) : TypeText.Found (List String) :=
  match t.meanings with
  | .ok meanings =>
    .ok (((t.fields.zip meanings).filter fun (_, m) => m.isString).map fun (f, _) => f.name)
  | .error .senseless => .ok (t.namesWhere fun f => f.annotation.isStringAsWritten)
  | .error flaw => .error flaw

/-- The first field whose default is a collection that every record would share. -/
def sharedDefault? (t : RecordType) : Option (String × Value) :=
  t.defaults.find? fun (_, v) => match v with
    | .list _ => true
    | .dict _ => true
    | _ => false

end RecordType

/-- What the rows of a table or a projection are declared to be. -/
inductive RowType where
  | untyped
  | dictionary
  | record (t : RecordType)
  /-- Some type that declares no fields. -/
  | other (name : String)

namespace RowType

/-- The name of the type, if one is declared. -/
def name? : RowType → Option String
  | untyped => none
  | dictionary => some "dict"
  | record t => some t.name
  | other name => some name

end RowType

/-- A record type, if there is one, under a naming policy. -/
structure Schema where
  record : Option RecordType
  naming : Naming
  /-- The names of the fields that are strings. -/
  strings : List String

/-- Why a row type has no schema. -/
inductive SchemaFault where
  /-- The type declares no fields. -/
  | noFields
  /-- The declaration of a field cannot be read. -/
  | declaration (flaw : TypeText.Flaw)

namespace Schema

/-- The schema of rows whose type declares nothing. -/
def untyped (naming : Naming) : Schema :=
  ⟨none, naming, []⟩

/-- The schema of a row type; types that declare no fields have none. -/
def ofRow (row : RowType) (naming : Naming) : Except SchemaFault Schema :=
  match row with
  | .untyped => .ok (untyped naming)
  | .dictionary => .ok (untyped naming)
  | .record t =>
    (t.stringNames.map fun strings => (⟨some t, naming, strings⟩ : Schema)).mapError .declaration
  | .other _ => .error .noFields

/-- The name of the record type. -/
def typeName? (s : Schema) : Option String :=
  s.record.map RecordType.name

/-- The fields with their names at the service. -/
def wireNames (s : Schema) : List (String × String) :=
  match s.record with
  | none => []
  | some t => t.fields.map fun f => (f.name, f.nameUnder s.naming)

/-- The names of the fields that a record cannot be made without. -/
def required (s : Schema) : List String :=
  (s.record.map RecordType.required).getD []

/--
The name of a path at the service, with slashes between its parts. The first part has to be a
field of the record type; the others are only named under the policy.
-/
def wirePath? (s : Schema) (path : FieldPath) : Option String :=
  match s.record with
  | none => some ("/".intercalate path.names)
  | some t =>
    (t.field? path.first.text).map fun f =>
      "/".intercalate (f.nameUnder s.naming :: path.rest.map fun name => s.naming.apply name.text)

/-- Whether a path is known to lead to a string: it is a single name of a string field. -/
def isString (s : Schema) (path : FieldPath) : Bool :=
  path.rest.isEmpty && s.strings.contains path.first.text

/-- The field that takes the values of a name at the service. -/
def attribute? (s : Schema) (wire : String) : Option String :=
  (s.wireNames.reverse.find? fun pair => pair.2 = wire).map Prod.fst

/-- The values that an item gives to fields, by the names of the fields. -/
def givenValues (s : Schema) (item : JsonObject) : List (String × Value) :=
  item.filterMap fun member => (s.attribute? member.1).map (·, member.2.toValue)

/-- The record of an item of the service, or the item itself if no record type is known. -/
def decode? (s : Schema) (item : JsonObject) : Option Item :=
  match s.record with
  | none => some (.ofObject item)
  | some t => (t.ofValues? (s.givenValues item)).map .record

end Schema

/-- The columns of a projection: the name of each in the result, and its name at the service. -/
abbrev Columns := List (String × String)

/-- What a projection makes of its columns. -/
structure Projection where
  columns : Columns
  into : Option RecordType

namespace Projection

/-- The projection into a row type; types that declare no fields cannot be filled. -/
def into? (columns : Columns) (row : RowType) : Option Projection :=
  match row with
  | .untyped => some ⟨columns, none⟩
  | .dictionary => some ⟨columns, none⟩
  | .record t => some ⟨columns, some t⟩
  | .other _ => none

/-- The values of the columns of an item; what the item lacks is null. -/
def values (p : Projection) (item : JsonObject) : List (String × Value) :=
  p.columns.map fun (out, wire) => (out, (Json.getD item wire).toValue)

/-- The values of the columns by their names in the result. -/
def entries (p : Projection) (item : JsonObject) : List (String × Value) :=
  Json.ofMembers (p.values item)

/-- The result of a projection for one item. -/
def decode? (p : Projection) (item : JsonObject) : Option Item :=
  match p.into with
  | none => some (.ofEntries (p.entries item))
  | some t => (t.ofValues? (p.entries item)).map .record

end Projection

end PagedTables
