import PagedTables.Time.Calendar
import PagedTables.Text.Digits

/-!
# Clock readings

Readings of a clock, times of day and dates with a time, the last two with an optional offset from
UTC. One with an offset denotes a point in time, so two of them are the same when the points are;
one without an offset is only a reading, and the same as another one that reads alike. Of the
offsets of times of day only the whole seconds count.

The offset of a date with a time may be the one of a named zone, in which clocks are changed. Then
two readings in that zone are the same when they read alike, and a reading that comes twice or never
is the same as none in another zone.
-/
namespace PagedTables

/-- A length of time in microseconds. -/
structure Duration where
  microseconds : Int
  deriving DecidableEq

namespace Duration

/-- Microseconds in a second. -/
def perSecond : Nat := 1000000

/-- The duration of a whole number of seconds. -/
def ofSeconds (n : Int) : Duration :=
  ⟨n * perSecond⟩

/-- The seconds of a duration, without a fraction of one. -/
def wholeSeconds (d : Duration) : Int :=
  d.microseconds / perSecond

end Duration

/-- A reading of a clock, down to the microsecond. -/
structure Clock where
  hour : Nat
  minute : Nat
  second : Nat
  microsecond : Nat
  deriving DecidableEq

/-- A time of day, perhaps with an offset from UTC. -/
structure TimeOfDay where
  clock : Clock
  offset : Option Duration
  deriving DecidableEq

/-- Where a date and a time are read. -/
inductive Zone where
  /-- At an offset from UTC. -/
  | fixed (offset : Duration)
  /--
  In a named zone, by the two offsets that it has for the reading. They differ where its clocks are
  changed, so that the reading comes twice or never.
  -/
  | named (key : String) (early late : Duration)
  deriving DecidableEq

/-- A date and a time, perhaps in a zone. -/
structure DateTime where
  date : Date
  clock : Clock
  zone : Option Zone
  /-- Of a reading that comes twice, the second one is meant. -/
  isLate : Bool
  deriving DecidableEq

/-- Seconds in a day. -/
def daySeconds : Nat := 86400

/-- Microseconds in a day. -/
def dayMicroseconds : Nat := daySeconds * Duration.perSecond

namespace Clock

/-- The hour is below 24, the minute and the second below 60, the rest below a second. -/
def Valid (c : Clock) : Prop :=
  c.hour < 24 ∧ c.minute < 60 ∧ c.second < 60 ∧ c.microsecond < 1000000

instance (c : Clock) : Decidable c.Valid :=
  inferInstanceAs (Decidable (_ ∧ _ ∧ _ ∧ _))

/-- Whole seconds since midnight. -/
def seconds (c : Clock) : Nat :=
  c.hour * 3600 + c.minute * 60 + c.second

/-- Microseconds since midnight. -/
def microseconds (c : Clock) : Nat :=
  c.seconds * 1000000 + c.microsecond

/-- The reading a number of seconds after midnight, with the given microseconds. -/
def ofSeconds (seconds microsecond : Nat) : Clock :=
  ⟨seconds / 3600, seconds / 60 % 60, seconds % 60, microsecond⟩

/-- Hours, minutes and seconds, two digits each, between colons. -/
def toText (c : Clock) : String :=
  Text.padded 2 c.hour ++ ":" ++ Text.padded 2 c.minute ++ ":" ++ Text.padded 2 c.second

/-- The whole milliseconds of the fraction of a second, as three digits. -/
def millisecondText (c : Clock) : String :=
  Text.padded 3 (c.microsecond / 1000)

end Clock

namespace TimeOfDay

/--
The same reading without offsets, or the same reading once the whole seconds of each offset are
taken off.
-/
def same (a b : TimeOfDay) : Bool :=
  match a.offset, b.offset with
  | none, none => a.clock == b.clock
  | some x, some y =>
    (a.clock.microseconds : Int) - x.wholeSeconds * 1000000 ==
      (b.clock.microseconds : Int) - y.wholeSeconds * 1000000
  | _, _ => false

end TimeOfDay

namespace Zone

/-- The offset of a reading. -/
def offset (isLate : Bool) : Zone → Duration
  | fixed offset => offset
  | named _ early late => if isLate then late else early

/-- The reading comes twice or never. -/
def isAmbiguous : Zone → Bool
  | fixed _ => false
  | named _ early late => early ≠ late

/-- Two zones of one name. -/
def isSamePlace : Zone → Zone → Bool
  | named key _ _, named key' _ _ => key = key'
  | _, _ => false

end Zone

namespace DateTime

/-- The offset from UTC. -/
def offset (t : DateTime) : Option Duration :=
  t.zone.map (Zone.offset t.isLate)

/-- The point in time, in microseconds, of a date and time at an offset. -/
def instant (t : DateTime) (offset : Duration) : Int :=
  (t.date.ordinal : Int) * dayMicroseconds + t.clock.microseconds - offset.microseconds

/--
The same reading without zones or in one named zone, whichever of two is meant there; or the same
point in time in other zones, none of which has an ambiguous reading.
-/
def same (a b : DateTime) : Bool :=
  match a.zone, b.zone with
  | none, none => a.date == b.date && a.clock == b.clock
  | some x, some y =>
    if x.isSamePlace y then a.date == b.date && a.clock == b.clock
    else !x.isAmbiguous && !y.isAmbiguous &&
      a.instant (x.offset a.isLate) == b.instant (y.offset b.isLate)
  | _, _ => false

/--
The date and the reading in UTC of a time at an offset of less than a day. It does not exist when
the day lies outside the calendar.
-/
def utc? (t : DateTime) (offset : Duration) : Option (Date × Clock) :=
  let past : Int := t.clock.microseconds - offset.microseconds
  let within := (past % dayMicroseconds).toNat
  (t.date.step? (past / dayMicroseconds)).map fun date =>
    (date, Clock.ofSeconds (within / 1000000) (within % 1000000))

end DateTime

end PagedTables
