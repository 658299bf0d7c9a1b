import PagedTables.Fault

/-!
# Requests of queries

What a query asks a service for, and what becomes of the items that it answers with. Both need the
schema of the query's items, which exists unless they are declared to be of a type without fields.
-/
namespace PagedTables

/-- What becomes of an item of the service. -/
abbrev Decoder := JsonObject → Except Fault Item

namespace Decoder

/-- Items stay as they are. -/
def plain : Decoder :=
  fun item => .ok (.ofObject item)

/-- The decoder that fails on the items of which nothing can be made. -/
def ofPartial (decode? : JsonObject → Option Item) : Decoder :=
  fun item => (decode? item).elim (.error .wrongType) .ok

theorem ofPartial_eq_ok_iff {decode? : JsonObject → Option Item} {item : JsonObject} {made : Item} :
    ofPartial decode? item = .ok made ↔ decode? item = some made := by
  rw [ofPartial]
  cases decode? item <;> simp

theorem ofPartial_of_none {decode? : JsonObject → Option Item} {item : JsonObject}
    (h : decode? item = none) : ofPartial decode? item = .error .wrongType := by
  rw [ofPartial, h]
  rfl

end Decoder

namespace Schema

/-- What becomes of the items of a schema. -/
def decoder (s : Schema) : Decoder :=
  .ofPartial s.decode?

/-- The item that a JSON value is read as. Without a record type a list of pairs is an object. -/
def read (s : Schema) (j : Json) : Except Fault Item :=
  match j, s.record with
  | .object members, _ => s.decoder members
  | j, none => (j.toValue.toDict.map .plain).mapError PairingFault.fault
  | _, some _ => .error .noAttribute

end Schema

namespace Projection

/-- What becomes of the items that are projected. -/
def decoder (p : Projection) : Decoder :=
  .ofPartial p.decode?

/-- The item that a JSON value is read as, which has to be an object if there are columns. -/
def read (p : Projection) (j : Json) : Except Fault Item :=
  match j with
  | .object members => p.decoder members
  | _ => if p.columns.isEmpty then p.decoder [] else .error .noAttribute

end Projection

/-- What reads items: a schema of whole rows, or a projection of some columns. -/
inductive Reader where
  | rows (s : Schema)
  | columns (p : Projection)

namespace Reader

/-- The item that an object is read as. -/
def decode : Reader → Decoder
  | rows s => s.decoder
  | columns p => p.decoder

/-- The item that a JSON value is read as. -/
def read : Reader → Json → Except Fault Item
  | rows s => s.read
  | columns p => p.read

end Reader

namespace RowType

/-- The schema of rows. -/
def schema (row : RowType) (naming : Naming) : Except Fault Schema :=
  (Schema.ofRow row naming).mapError SchemaFault.fault

/-- The projection of columns into rows. -/
def projection (row : RowType) (columns : Columns) : Except Fault Projection :=
  match Projection.into? columns row with
  | some projection => .ok projection
  | none => .error .projectionTarget

end RowType

namespace TableQuery

/-- The schema of a query's items. -/
def schema (q : TableQuery) : Except Fault Schema :=
  q.row.schema q.naming

/-- The components of a query. -/
def components (q : TableQuery) (withParameters : Bool) :
    Except Fault (List Component) := do
  let schema ← q.schema
  (q.spec.components schema withParameters).mapError .refused

/-- The query string. -/
def queryString (q : TableQuery) (withParameters : Bool) : Except Fault String :=
  (q.components withParameters).map queryStringOf

/-- What reads the items that a query is answered with. -/
def reader (q : TableQuery) : Except Fault Reader := do
  let schema ← q.schema
  match q.spec.selection with
  | none => return .rows schema
  | some selection =>
    let columns ← (selectionColumns schema selection).mapError .refused
    return .columns (← q.into.projection columns)

/-- What becomes of the items that a query is answered with. -/
def decoder (q : TableQuery) : Except Fault Decoder :=
  q.reader.map Reader.decode

end TableQuery

end PagedTables
