import PagedTables.Time.Clock

/-!
# Texts of dates and times

How dates, times and durations are written by themselves: the parts of a date between dashes, the
parts of a time between colons, a fraction of a second in six digits if there is one, and an
offset from UTC in hours and minutes.
-/
namespace PagedTables

/-- Year, month and day between dashes, the year in at least `width` digits. -/
def Date.text (width : Nat) (d : Date) : String :=
  Text.padded width d.year ++ "-" ++ Text.padded 2 d.month ++ "-" ++ Text.padded 2 d.day

/-- A fraction of a second in microseconds, if there is one. -/
def fractionText (microseconds : Nat) : String :=
  if microseconds = 0 then "" else "." ++ Text.padded 6 microseconds

/--
An offset from UTC: its sign, hours and minutes, and seconds with their fraction if there are any.
-/
def offsetText (offset : Duration) : String :=
  let n := offset.microseconds.natAbs
  let seconds := n / 1000000
  (if offset.microseconds < 0 then "-" else "+") ++ Text.padded 2 (seconds / 3600) ++ ":" ++
    Text.padded 2 (seconds / 60 % 60) ++
    (if n % 60000000 = 0 then "" else
      ":" ++ Text.padded 2 (seconds % 60) ++ fractionText (n % 1000000))

/-- A time of day with its fraction and its offset, if it has them. -/
def TimeOfDay.text (t : TimeOfDay) : String :=
  t.clock.toText ++ fractionText t.clock.microsecond ++ ((t.offset.map offsetText).getD "")

/-- A date and a time with a blank between them. -/
def DateTime.text (t : DateTime) : String :=
  t.date.text 4 ++ " " ++ TimeOfDay.text ⟨t.clock, t.offset⟩

/-- Days, if there are any, which take up the sign, and hours, minutes and seconds. -/
def Duration.text (d : Duration) : String :=
  let seconds := d.microseconds / 1000000
  let days := seconds / daySeconds
  let rest := (seconds % daySeconds).toNat
  let named :=
    if days = 0 then ""
    else Text.ofInt days ++ (if days.natAbs = 1 then " day, " else " days, ")
  named ++ (rest / 3600).repr ++ ":" ++ Text.padded 2 (rest / 60 % 60) ++ ":" ++
    Text.padded 2 (rest % 60) ++ fractionText (d.microseconds % 1000000).toNat

end PagedTables
