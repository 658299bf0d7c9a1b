import PagedTables.Fault
import PagedTables.Schema.Item

/-!
# Frames

Items laid out as rows: a record has a column for each of its fields and a dictionary one for each
of its keys. The columns of several items stand in the order in which they are first seen. Only
the shape of a frame is kept here.
-/
namespace PagedTables

namespace Item

/-- The columns of an item with their values; other values than records and dictionaries are no
rows. -/
def columns : Item → Except Fault (List (Value × Value))
  | plain (.dict entries) => .ok entries
  | plain v => .error (.notARow v.typeName)
  | record r => r.fields.mapM fun (name, value) =>
    match value with
    | some v => .ok (.text name, v)
    | none => .error .noAttribute

end Item

/-- The shape of a frame. -/
structure Frame where
  columns : List Value
  rows : Nat

namespace Frame

/-- The columns of rows that were not among them before, after those that were. -/
def addColumns (columns : List Value) (row : List (Value × Value)) : List Value :=
  row.foldl (fun seen (name, _) =>
    if seen.any (Value.sameKey name) then seen else seen ++ [name]) columns

/-- The frame of some rows; without any column there are no rows. -/
def ofRows (rows : List (List (Value × Value))) : Frame :=
  let columns := rows.foldl addColumns []
  ⟨columns, if columns.isEmpty then 0 else rows.length⟩

/-- The frame of some items. -/
def ofItems (items : List Item) : Except Fault Frame :=
  (items.mapM Item.columns).map ofRows

end Frame

end PagedTables
