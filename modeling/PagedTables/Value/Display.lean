import PagedTables.Value.Basic
import PagedTables.Text.Quoted

/-!
# Display of values

How a value is shown inside a message: texts between quotes, containers between their brackets,
and the rest as the call that would build it. An integer of too many digits is not shown at all,
nor is anything that holds one.
-/
namespace PagedTables

/-- What a member holds. -/
def MemberContent.display : MemberContent → String
  | shown display => display
  | number n => Text.ofInt n
  | text s => Text.quoted s

/-- A member with its enumeration, its name if it has one, and what it holds. -/
def Member.display (m : Member) : String :=
  "<" ++ m.typeName.text ++ (m.name?.elim "" ("." ++ ·)) ++ ": " ++ m.content.display ++ ">"

/-- What a member holds can be displayed. -/
def MemberContent.isShowable : MemberContent → Bool
  | number n => Text.isWritable n
  | _ => true

namespace Value

mutual

/-- The display of a value. -/
def display : Value → String
  | null => "None"
  | bool b => if b then "True" else "False"
  | int n => Text.ofInt n
  | float x => x.toText
  | decimal d => "Decimal(" ++ Text.quoted d.toText ++ ")"
  | text s => Text.quoted s
  | uuid u => "UUID(" ++ Text.quoted (Uuid.toText u) ++ ")"
  | datetime t => t.display
  | date d => d.display
  | time t => t.display
  | duration d => d.display
  | member m => m.display
  | bytes bs => Text.quotedBytes bs
  | list xs => "[" ++ ", ".intercalate (displays xs) ++ "]"
  | tuple xs =>
    "(" ++ ", ".intercalate (displays xs) ++ (if xs.length = 1 then ",)" else ")")
  | dict entries => "\x7b" ++ ", ".intercalate (displayEntries entries) ++ "\x7d"

/-- The displays of the values of a list. -/
def displays : List Value → List String
  | [] => []
  | x :: rest => display x :: displays rest

/-- The displays of the entries of a dictionary. -/
def displayEntries : List (Value × Value) → List String
  | [] => []
  | (key, value) :: rest => (display key ++ ": " ++ display value) :: displayEntries rest

end

mutual

/-- The value can be displayed, as no integer in it has too many digits for that. -/
def isShowable : Value → Bool
  | int n => Text.isWritable n
  | member m => m.content.isShowable
  | list xs => areShowable xs
  | tuple xs => areShowable xs
  | dict entries => areShowableEntries entries
  | _ => true

/-- Every value of the list can be displayed. -/
def areShowable : List Value → Bool
  | [] => true
  | x :: rest => isShowable x && areShowable rest

/-- The keys and values of the entries can be displayed. -/
def areShowableEntries : List (Value × Value) → Bool
  | [] => true
  | (key, value) :: rest => isShowable key && isShowable value && areShowableEntries rest

end

end Value

end PagedTables
