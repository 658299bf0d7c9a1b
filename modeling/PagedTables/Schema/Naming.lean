import PagedTables.Text.Case
import PagedTables.Text.Split

/-!
# Naming policies

How the attribute names of a program become the field names of a service. Under the camel-case
policy the words between underscores are run together, each but the first with a capital at its
start and the first with a small letter there; a name that starts with an underscore stays as it
is. The other policy changes nothing.
-/
namespace PagedTables

/-- A naming policy. -/
inductive Naming where
  | camelCase
  | verbatim
  deriving DecidableEq

/-- A word with the first character in upper case. -/
def capitalize : List Char → List Char
  | [] => []
  | c :: rest => Text.upperChar c ++ rest

/-- A word with the first character in lower case. -/
def decapitalize : List Char → List Char
  | [] => []
  | c :: rest => Text.lowerChar c ++ rest

/-- The camel-case form of a name. -/
def camelCaseChars (name : List Char) : List Char :=
  match Text.splitAt '_' name with
  | [] => name
  | head :: words => if head.isEmpty then name else decapitalize head ++ words.flatMap capitalize

/-- The camel-case form of a name. -/
def camelCase (name : String) : String :=
  String.ofList (camelCaseChars name.toList)

/-- The name under a policy. -/
def Naming.apply (naming : Naming) (name : String) : String :=
  match naming with
  | .camelCase => PagedTables.camelCase name
  | .verbatim => name

end PagedTables
