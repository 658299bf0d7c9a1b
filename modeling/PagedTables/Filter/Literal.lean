import PagedTables.Time.Text
import PagedTables.Value.Display

/-!
# Literals

The constants that filter texts can hold, and their texts. Texts stand between single quotes with
every quote inside them doubled; identifiers, points in time, dates and times of day are casts of
their plain texts; doubles always have a point or an exponent, and decimals end in M.

Values have a literal unless they are not finite, are a time without an offset, or are of a type
that filters do not know. A member of an enumeration is written as its name, so that one without a
name has none, and an integer has none if it has too many digits to be written.
-/
namespace PagedTables

/-- A constant of a filter text. -/
inductive Literal where
  | null
  | bool (b : Bool)
  | int (n : Int)
  | float (negative : Bool) (rank : Fin magnitudeCount)
  | decimal (negative : Bool) (coefficient : Nat) (exponent : Int)
  | text (s : String)
  | uuid (u : Uuid)
  /-- A point in time by its date and its reading in UTC. -/
  | instant (date : Date) (clock : Clock)
  | date (d : Date)
  | time (c : Clock)

namespace Literal

/-- A text with every quote in it doubled. -/
def doubleQuotes : List Char → List Char
  | [] => []
  | c :: rest => if c = '\'' then '\'' :: '\'' :: doubleQuotes rest else c :: doubleQuotes rest

/-- A text between quotes. -/
def quote (s : String) : String :=
  String.ofList ('\'' :: doubleQuotes s.toList ++ ['\''])

/-- A cast of a plain text to a type. -/
def cast (plain typeName : String) : String :=
  "cast(" ++ plain ++ ",Edm." ++ typeName ++ ")"

/-- The text of a double: its shortest text with a capital exponent mark. -/
def floatText (negative : Bool) (rank : Fin magnitudeCount) : String :=
  String.ofList ((Binary64.finite negative rank).toText.toList.map fun c =>
    if c = 'e' then 'E' else c)

/-- The date and time of a point in time, down to the millisecond; the year is not padded. -/
def instantText (d : Date) (c : Clock) : String :=
  d.text 1 ++ "T" ++ c.toText ++ "." ++ c.millisecondText ++ "Z"

/-- A time of day, with milliseconds only if there is a fraction of a second. -/
def timeText (c : Clock) : String :=
  c.toText ++ (if c.microsecond = 0 then "" else "." ++ c.millisecondText)

/-- The text of a literal. -/
def toText : Literal → String
  | null => "null"
  | bool b => if b then "true" else "false"
  | int n => Text.ofInt n
  | float negative rank => floatText negative rank
  | decimal negative coefficient exponent =>
    (Decimal.finite negative coefficient exponent).toText ++ "M"
  | text s => quote s
  | uuid u => cast (Uuid.toText u) "Guid"
  | instant d c => cast (instantText d c) "DateTimeOffset"
  | date d => cast (d.text 4) "Date"
  | time c => cast (timeText c) "TimeOfDay"

end Literal

/-- Why a value has no literal. -/
inductive LiteralFault where
  /-- An infinity or a NaN, given by its display. -/
  | notFinite (display : String)
  /-- A date and time without an offset, given by its display. -/
  | noOffset (display : String)
  /-- A value of a type that filters do not know. -/
  | unknownType (typeName : String)
  /-- A point in time outside the calendar of UTC. -/
  | beyondCalendar
  /-- An integer of too many digits. -/
  | tooLong
  /-- A member without a name. -/
  | noName

namespace Value

/-- The literal of a value. -/
def literal : Value → Except LiteralFault Literal
  | null => .ok .null
  | bool b => .ok (.bool b)
  | member m => m.name?.elim (.error .noName) (.ok <| .text ·)
  | int n => if Text.isWritable n then .ok (.int n) else .error .tooLong
  | float (.finite negative rank) => .ok (.float negative rank)
  | float x => .error (.notFinite x.toText)
  | decimal (.finite negative coefficient exponent) =>
    .ok (.decimal negative coefficient exponent)
  | decimal d => .error (.notFinite d.toText)
  | text s => .ok (.text s)
  | uuid u => .ok (.uuid u)
  | datetime t =>
    match t.offset with
    | none => .error (.noOffset t.display)
    | some offset =>
      match t.utc? offset with
      | some (day, reading) => .ok (.instant day reading)
      | none => .error .beyondCalendar
  | date d => .ok (.date d)
  | time t => .ok (.time t.clock)
  | other => .error (.unknownType other.typeName)

end Value

end PagedTables
