import PagedTables.Time.Text
import PagedTables.Value.Display

/-!
# Texts of values

How a value is written where a text is made of it: texts as they are, members by their
enumeration and name or by what they hold, identifiers, decimals, dates and times by their plain
texts, and the rest by their display.
-/
namespace PagedTables

/-- The text of a member. -/
def Member.toText (m : Member) : String :=
  match m.style with
  | .byContent => match m.content with
    | .text s => s
    | content => content.display
  | .byName => m.typeName.text ++ (m.name?.elim ("(" ++ m.content.display ++ ")") ("." ++ ·))

/-- The text of a member can be made; what it holds is not looked at if its name is written. -/
def Member.hasText (m : Member) : Bool :=
  (m.style = .byName && m.name?.isSome) || m.content.isShowable

namespace Value

/-- The text of a value. -/
def toText : Value → String
  | text s => s
  | member m => m.toText
  | decimal d => d.toText
  | uuid u => Uuid.toText u
  | datetime t => t.text
  | date d => d.text 4
  | time t => t.text
  | duration d => d.text
  | v => v.display

/-- The text of a value can be made. -/
def hasText : Value → Bool
  | member m => m.hasText
  | v => v.isShowable

/-- A value is a name exactly if it is a text. -/
theorem text_of_asName? (v : Value) : v.asName?.map Name.text = v.asText? := by
  cases v with
  | member m =>
      obtain ⟨typeName, names, content, style, hnamed⟩ := m
      cases content <;> rfl
  | _ => rfl

end Value

end PagedTables
