import PagedTables.Value.Basic

/-!
# JSON

The values of JSON, with integers of any size apart from doubles, and with the members of an
object in their order. A name occurs once in an object: writing it again replaces the value and
keeps the place.
-/
namespace PagedTables

/-- A JSON value. -/
inductive Json where
  | null
  | bool (b : Bool)
  | int (n : Int)
  | float (x : Binary64)
  | text (s : String)
  | array (items : List Json)
  | object (members : List (String × Json))

instance : Inhabited Json :=
  ⟨.null⟩

/-- The members of a JSON object in order. -/
abbrev JsonObject := List (String × Json)

namespace Json

/-- The members with a name set to a value, in the name's old place or else at the end. -/
def setMember {α : Type} (name : String) (value : α) : List (String × α) → List (String × α)
  | [] => [(name, value)]
  | (n, v) :: rest =>
    if n = name then (n, value) :: rest else (n, v) :: setMember name value rest

/-- The members of values that are set one after the other. -/
def ofMembers {α : Type} (members : List (String × α)) : List (String × α) :=
  members.foldl (fun acc member => setMember member.1 member.2 acc) []

/-- The value of a member. -/
def get? (members : JsonObject) (name : String) : Option Json :=
  members.lookup name

/-- The value of a member, null if there is none. -/
def getD (members : JsonObject) (name : String) : Json :=
  (members.lookup name).getD .null

/-- The members of an object. -/
def asObject? : Json → Option JsonObject
  | object members => some members
  | _ => none

mutual

/-- A JSON value as a value: arrays are lists and objects dictionaries with text keys. -/
def toValue : Json → Value
  | null => .null
  | bool b => .bool b
  | int n => .int n
  | float x => .float x
  | text s => .text s
  | array items => .list (toValues items)
  | object members => .dict (toEntries members)

/-- The values of an array. -/
def toValues : List Json → List Value
  | [] => []
  | item :: rest => toValue item :: toValues rest

/-- The entries of an object. -/
def toEntries : List (String × Json) → List (Value × Value)
  | [] => []
  | (name, value) :: rest => (.text name, toValue value) :: toEntries rest

end

end Json

end PagedTables
