import PagedTables.Text.Quoted
import PagedTables.Time.Clock

/-!
# Display of dates and times

How dates, times and durations are shown inside a message: as the call that would build them,
with parts that are zero left out at the end.
-/
namespace PagedTables

/-- Arguments in a row. -/
def displayArguments (parts : List String) : String :=
  ", ".intercalate parts

namespace Duration

/-- Days, seconds and microseconds, those that are not zero; days take up the sign. -/
def display (d : Duration) : String :=
  let seconds := d.microseconds / 1000000
  let days := seconds / daySeconds
  let named (name : String) (n : Int) : List String :=
    if n = 0 then [] else [name ++ "=" ++ Text.ofInt n]
  let parts := named "days" days ++ named "seconds" (seconds % daySeconds) ++
    named "microseconds" (d.microseconds % 1000000)
  "datetime.timedelta(" ++ (if parts.isEmpty then "0" else displayArguments parts) ++ ")"

end Duration

/-- The display of an offset from UTC. -/
def displayOffset (offset : Duration) : String :=
  if offset.microseconds = 0 then "datetime.timezone.utc"
  else "datetime.timezone(" ++ offset.display ++ ")"

/-- The display of a zone. -/
def Zone.display : Zone → String
  | fixed offset => displayOffset offset
  | named key _ _ => "zoneinfo.ZoneInfo(key=" ++ Text.quoted key ++ ")"

/-- The offset as a last argument, if there is one. -/
def offsetArguments (offset : Option Duration) : List String :=
  (offset.map fun offset => "tzinfo=" ++ displayOffset offset).toList

/-- Seconds and microseconds, without those at the end that are zero. -/
def fineArguments (c : Clock) : List String :=
  if c.microsecond = 0 then (if c.second = 0 then [] else [c.second.repr])
  else [c.second.repr, c.microsecond.repr]

/-- The display of a date. -/
def Date.display (d : Date) : String :=
  "datetime.date(" ++ displayArguments [d.year.repr, d.month.repr, d.day.repr] ++ ")"

/-- The display of a time of day. -/
def TimeOfDay.display (t : TimeOfDay) : String :=
  "datetime.time(" ++ displayArguments ([t.clock.hour.repr, t.clock.minute.repr] ++
    fineArguments t.clock ++ offsetArguments t.offset) ++ ")"

/-- The display of a date with a time. -/
def DateTime.display (t : DateTime) : String :=
  "datetime.datetime(" ++ displayArguments ([t.date.year.repr, t.date.month.repr,
    t.date.day.repr, t.clock.hour.repr, t.clock.minute.repr] ++ fineArguments t.clock ++
    (if t.isLate then ["fold=1"] else []) ++
    (t.zone.map fun zone => "tzinfo=" ++ zone.display).toList) ++ ")"

end PagedTables
