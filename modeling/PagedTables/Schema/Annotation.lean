import PagedTables.TypeText.Evaluation

/-!
# Field annotations

What a program declares about the type of a field, and when that makes the field a string. An
annotation is either a type or a text that spells one.

A field is a string when its type is the type of texts, or an alternative that leaves that type
alone once the type of null is taken out. A text can also be judged by how it is written, without
being read.
-/
namespace PagedTables

/-- What is declared about a field's type. -/
inductive Annotation where
  | term (m : TypeText.Meaning)
  | text (s : String)

namespace Annotation

/-- The texts that name a string when texts are not read. -/
def stringSpellings : List String :=
  ["str", "Optional[str]", "str|None", "None|str"]

/-- Whether a declaration is one of a string, judged by its text when it is one. -/
def isStringAsWritten : Annotation → Bool
  | term m => m.isString
  | text s => stringSpellings.contains (String.ofList (s.toList.filter (· ≠ ' ')))

/-- A declaration as it is, without being read. -/
def asDeclared : Annotation → TypeText.Meaning
  | term m => m
  | text s => .ofText s

/-- The meaning of a declaration in the surroundings of the record type. -/
def meaning (around : TypeText.Surroundings) : Annotation → TypeText.Reading TypeText.Meaning
  | term m => TypeText.typeMeaning around m
  | text s => TypeText.textMeaning around s

end Annotation

end PagedTables
