import PagedTables.Json.Basic
import PagedTables.Value.Equality

/-!
# Items

What a page of results holds: values as they came, or records of a declared type with a value for
each of their fields. A field that is never given one has no value.
-/
namespace PagedTables

/-- An instance of a declared type, with its fields in the order of the declaration. -/
structure Record where
  typeName : String
  fields : List (String × Option Value)

/-- One item of a result. -/
inductive Item where
  | plain (value : Value)
  | record (r : Record)

namespace Item

/-- The name of the item's type. -/
def typeName : Item → String
  | plain value => value.typeName
  | record r => r.typeName

/-- The item of a JSON object that is not decoded any further. -/
def ofObject (members : JsonObject) : Item :=
  plain (Json.object members).toValue

/-- The item with named values, no name of which occurs twice. -/
def ofEntries (entries : List (String × Value)) : Item :=
  plain (.dict (entries.map fun (name, value) => (.text name, value)))

end Item

end PagedTables
