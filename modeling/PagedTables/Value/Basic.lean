import PagedTables.Number.Decimal
import PagedTables.Time.Display
import PagedTables.Value.Name

/-!
# Values

The values that programs put into queries and get out of items: numbers, texts, dates and times,
identifiers, members of enumerations, bytes and containers of values. The members of an
enumeration may be numbers or texts at the same time; then they compare and count as those.
-/
namespace PagedTables

/-- What a member of an enumeration holds, and whether it is at the same time what it holds. -/
inductive MemberContent where
  /-- The member is only itself; what it stands for is given by its display. -/
  | shown (display : String)
  /-- The member is an integer. -/
  | number (n : Int)
  /-- The member is a text. -/
  | text (s : String)
  deriving DecidableEq

/-- The member is a text. -/
def MemberContent.isText : MemberContent → Bool
  | text _ => true
  | _ => false

/-- What stands for a member where a text is made of it. -/
inductive MemberStyle where
  /-- Its enumeration and its name. -/
  | byName
  /-- What it holds. -/
  | byContent
  deriving DecidableEq

/-- A member of an enumeration. -/
structure Member where
  typeName : Identifier
  /-- The name of the member; a combination of flags has several, or none if it is empty. -/
  names : List Identifier
  content : MemberContent
  style : MemberStyle
  /-- Flags are no texts, so that every member that is one has its own name. -/
  isNamed : content.isText = true → names.length = 1
  deriving DecidableEq

namespace Member

/-- The member of one name. -/
def single (typeName name : Identifier) (content : MemberContent) (style : MemberStyle) : Member :=
  ⟨typeName, [name], content, style, fun _ => rfl⟩

/-- The name of a member, if it has one; several have a line between them. -/
def name? (m : Member) : Option String :=
  if m.names.isEmpty then none else some ("|".intercalate (m.names.map Identifier.text))

/-- The member as a label, if it is written by its name and has one of its own. -/
def label? (m : Member) : Option Label :=
  match m.style, m.names with
  | .byName, [name] => some ⟨m.typeName, name⟩
  | _, _ => none

end Member

/-- An identifier of 128 bits. -/
abbrev Uuid := BitVec 128

/-- A value. -/
inductive Value where
  | null
  | bool (b : Bool)
  | int (n : Int)
  | float (x : Binary64)
  | decimal (d : Decimal)
  | text (s : String)
  | uuid (u : Uuid)
  | datetime (t : DateTime)
  | date (d : Date)
  | time (t : TimeOfDay)
  | duration (d : Duration)
  | member (m : Member)
  | bytes (bs : List UInt8)
  | list (xs : List Value)
  | tuple (xs : List Value)
  | dict (entries : List (Value × Value))

instance : Inhabited Value :=
  ⟨.null⟩

namespace Value

/-- The name of a value's type. -/
def typeName : Value → String
  | null => "NoneType"
  | bool _ => "bool"
  | int _ => "int"
  | float _ => "float"
  | decimal _ => "Decimal"
  | text _ => "str"
  | uuid _ => "UUID"
  | datetime _ => "datetime"
  | date _ => "date"
  | time _ => "time"
  | duration _ => "timedelta"
  | member m => m.typeName.text
  | bytes _ => "bytes"
  | list _ => "list"
  | tuple _ => "tuple"
  | dict _ => "dict"

/-- The integer that a value is; truth values count as none. -/
def asInt? : Value → Option Int
  | int n => some n
  | member ⟨_, _, .number n, _, _⟩ => some n
  | _ => none

/-- The text that a value is. -/
def asText? : Value → Option String
  | text s => some s
  | member ⟨_, _, .text s, _, _⟩ => some s
  | _ => none

/-- The name that a value is. -/
def asName? : Value → Option Name
  | text s => some (.plain s)
  | member m => match m.content with
    | .text s => some ⟨s, m.label?⟩
    | _ => none
  | _ => none

/-- The value, unless it is null. -/
def unlessNull : Value → Option Value
  | null => none
  | v => some v

/--
Whether a value counts as true: null, zeros, empty texts and empty containers do not, and a member
does as what it is.
-/
def isTruthy : Value → Bool
  | null => false
  | bool b => b
  | int n => n != 0
  | float x => !x.isZero
  | decimal (.finite _ coefficient _) => coefficient != 0
  | decimal _ => true
  | text s => !s.isEmpty
  | duration d => d.microseconds != 0
  | member ⟨_, _, .number n, _, _⟩ => n != 0
  | member ⟨_, _, .text s, _, _⟩ => !s.isEmpty
  | bytes bs => !bs.isEmpty
  | list xs => !xs.isEmpty
  | tuple xs => !xs.isEmpty
  | dict entries => !entries.isEmpty
  | _ => true

end Value

namespace Uuid

/-- The lower-case digits in five groups between dashes. -/
def toText (u : Uuid) : String :=
  let ds := Text.paddedIn 16 32 u.toNat
  let group (start count : Nat) : String := String.ofList ((ds.drop start).take count)
  "-".intercalate [group 0 8, group 8 4, group 12 4, group 16 4, group 20 12]

/-- The text without every occurrence of a non-empty word. -/
def without (word : List Char) (s : List Char) : List Char :=
  match s with
  | [] => []
  | c :: rest =>
    if word.isPrefixOf (c :: rest) then without word (rest.drop (word.length - 1))
    else c :: without word rest
  termination_by s.length
  decreasing_by all_goals (simp only [List.length_cons, List.length_drop]; omega)

/-- Reads 32 hexadecimal digits; dashes, braces around them and the name of the scheme may stand. -/
def ofText? (s : String) : Option Uuid :=
  let bare := without "uuid:".toList (without "urn:".toList s.toList)
  let inner := Text.trimWhile (fun c => c = '\x7b' || c = '\x7d') bare
  let digits := inner.filter (· ≠ '-')
  if digits.length = 32 then (Text.readHex? digits).map (BitVec.ofNat 128) else none

end Uuid

end PagedTables
