import PagedTables.Text.Identifier

/-!
# Names

What programs name functions, fields and parameters by. A name is a text, and may be a member of an
enumeration at the same time. Then it counts as the text that it is, but where it is put into
another text, the enumeration and the member stand in its place.
-/
namespace PagedTables

/-- A member of an enumeration, by its enumeration and its own name. -/
structure Label where
  owner : Identifier
  own : Identifier
  deriving DecidableEq

/-- Both names with a point between them. -/
def Label.text (l : Label) : String :=
  l.owner.text ++ "." ++ l.own.text

/-- A name. -/
structure Name where
  /-- The text that the name is. -/
  text : String
  /-- The member that the name is, if it is written as one. -/
  label : Option Label
  deriving DecidableEq

namespace Name

/-- The name that is written as it is. -/
def plain (s : String) : Name :=
  ⟨s, none⟩

instance : Coe String Name :=
  ⟨plain⟩

/-- The text that is written for a name. -/
def written (n : Name) : String :=
  (n.label.map Label.text).getD n.text

@[simp] theorem text_plain (s : String) : (plain s).text = s := rfl

@[simp] theorem written_plain (s : String) : (plain s).written = s := rfl

end Name

end PagedTables
