import Mathlib.Algebra.Group.Nat.Defs
import PagedTables.Proofs.Filter.LiteralText
import PagedTables.Proofs.Filter.Reader
import PagedTables.Proofs.Time.Calendar

/-!
# Texts of dates and points in time

Dates and points in time are written in fields of digits with single marks between them, so the
fields of such a text are known by the text. Read as a day and a reading in UTC, they give the day
of a date, and of a point in time all but what is left of its last millisecond.

The first main result says so, with the widths of the fields. All of them have the same width in
every literal but one: the year of a date has four digits, and that of a point in time has no zeros
in front, so that it is shorter before the year 1000. The second main result says that two points in
time have the same literal exactly if they lie in the same millisecond.
-/
namespace PagedTables

/-! ## Fields of digits -/

/-- So many digits. -/
def IsField (width : Nat) (s : String) : Prop :=
  s.length = width ∧ ∀ c ∈ s.toList, c.isDigit

/-- The number that digits spell. -/
def fieldValue (s : String) : Nat :=
  Nat.ofDigitChars 10 s.toList 0

theorem fieldValue_padded (width n : Nat) : fieldValue (Text.padded width n) = n := by
  rw [fieldValue, Text.padded, String.toList_ofList, Text.paddedIn, Nat.ofDigitChars_append,
    Nat.ofDigitChars_replicate_zero, Nat.mul_zero, Nat.ofDigitChars_ten_toDigits]

theorem isField_padded {width n : Nat} (hwidth : 0 < width) (hn : n < 10 ^ width) :
    IsField width (Text.padded width n) := by
  have hdigits := (isDigits_paddedIn width n).2
  have hle := (Nat.length_toDigits_le_iff (by decide) hwidth).mpr hn
  constructor
  · rw [Text.padded, String.length_ofList, Text.paddedIn, List.length_append, List.length_replicate]
    omega
  · rw [Text.padded, String.toList_ofList]
    exact hdigits

/-- A number that need not fill a place is its plain text. -/
theorem padded_one (n : Nat) : Text.padded 1 n = n.repr := by
  have hlength : 0 < (Nat.toDigits 10 n).length := Nat.length_toDigits_pos
  have hnone : 1 - (Nat.toDigits 10 n).length = 0 := by omega
  rw [Text.padded, Text.paddedIn, hnone, Nat.repr_eq_ofList_toDigits]
  rfl

theorem isField_repr_iff {n : Nat} (hn : n < 10000) : IsField 4 n.repr ↔ 1000 ≤ n := by
  have hfour : n.repr.length ≤ 4 := (Nat.length_repr_le_iff (by decide)).mpr hn
  have hthree : n.repr.length ≤ 3 ↔ n < 1000 := Nat.length_repr_le_iff (by decide)
  have hdigits : ∀ c ∈ n.repr.toList, c.isDigit := by
    rw [Nat.toList_repr]
    exact (isDigits_toDigits n).2
  rw [IsField, and_iff_left hdigits]
  omega

/-- Digits end at the first character that is none. -/
theorem digits_eq_of_append_eq {s t as bs : List Char} {mark : Char}
    (hs : ∀ c ∈ s, c.isDigit) (ht : ∀ c ∈ t, c.isDigit) (hmark : mark.isDigit = false)
    (h : s ++ mark :: as = t ++ mark :: bs) : s = t ∧ as = bs := by
  have hleft := takeWhile_dropWhile_append Char.isDigit s (mark :: as) hs (by simpa using hmark)
  have hright := takeWhile_dropWhile_append Char.isDigit t (mark :: bs) ht (by simpa using hmark)
  rw [h] at hleft
  refine ⟨hleft.1.symm.trans hright.1, ?_⟩
  exact (List.cons.inj (hleft.2.symm.trans hright.2)).2

/-- The fields of a day. -/
structure DateFields where
  year : String
  month : String
  day : String

/-- The fields of a reading of a clock, down to the millisecond. -/
structure ClockFields where
  hour : String
  minute : String
  second : String
  millisecond : String

namespace DateFields

/-- The fields between dashes. -/
def text (f : DateFields) : String :=
  f.year ++ "-" ++ f.month ++ "-" ++ f.day

/-- The day that the fields spell. -/
def date (f : DateFields) : Date :=
  ⟨fieldValue f.year, fieldValue f.month, fieldValue f.day⟩

/-- The year has digits, the month and the day have two digits each. -/
structure WellFormed (f : DateFields) : Prop where
  year : IsDigits f.year.toList
  month : IsField 2 f.month
  day : IsField 2 f.day

/-- The fields of a day, with so many places for the year. -/
def ofDate (width : Nat) (d : Date) : DateFields :=
  ⟨Text.padded width d.year, Text.padded 2 d.month, Text.padded 2 d.day⟩

theorem date_ofDate (width : Nat) (d : Date) : (ofDate width d).date = d := by
  simp only [date, ofDate, fieldValue_padded]

theorem wellFormed_ofDate (width : Nat) {d : Date} (hd : d.Valid) :
    (ofDate width d).WellFormed := by
  obtain ⟨-, -, -, hmonth, -, hday⟩ := hd
  have hdays := Date.daysInMonth_le d.year d.month
  constructor
  · rw [ofDate, Text.padded, String.toList_ofList]
    exact isDigits_paddedIn width d.year
  · exact isField_padded (by decide) (by omega)
  · exact isField_padded (by decide) (by omega)

end DateFields

namespace ClockFields

/-- Hours, minutes and seconds between colons, and milliseconds behind a point. -/
def text (f : ClockFields) : String :=
  f.hour ++ ":" ++ f.minute ++ ":" ++ f.second ++ "." ++ f.millisecond

/-- The reading that the fields spell. -/
def clock (f : ClockFields) : Clock :=
  ⟨fieldValue f.hour, fieldValue f.minute, fieldValue f.second, fieldValue f.millisecond * 1000⟩

/-- There are three digits for the milliseconds and two for the rest each. -/
structure WellFormed (f : ClockFields) : Prop where
  hour : IsField 2 f.hour
  minute : IsField 2 f.minute
  second : IsField 2 f.second
  millisecond : IsField 3 f.millisecond

/-- The fields of a reading. -/
def ofClock (c : Clock) : ClockFields :=
  ⟨Text.padded 2 c.hour, Text.padded 2 c.minute, Text.padded 2 c.second,
    Text.padded 3 (c.microsecond / 1000)⟩

theorem wellFormed_ofClock {c : Clock} (hc : c.Valid) : (ofClock c).WellFormed := by
  obtain ⟨hhour, hminute, hsecond, hmicrosecond⟩ := hc
  constructor
  · exact isField_padded (by decide) (by omega)
  · exact isField_padded (by decide) (by omega)
  · exact isField_padded (by decide) (by omega)
  · exact isField_padded (by decide) (by omega)

end ClockFields

/-- The fields of a day and a reading are known by their text. -/
theorem fields_eq_of_text_eq {d d' : DateFields} {c c' : ClockFields}
    (hd : d.WellFormed) (hd' : d'.WellFormed) (hc : c.WellFormed) (hc' : c'.WellFormed)
    (h : d.text ++ "T" ++ c.text ++ "Z" = d'.text ++ "T" ++ c'.text ++ "Z") :
    d = d' ∧ c = c' := by
  obtain ⟨year, month, day⟩ := d
  obtain ⟨year', month', day'⟩ := d'
  obtain ⟨hour, minute, second, millisecond⟩ := c
  obtain ⟨hour', minute', second', millisecond'⟩ := c'
  have hchars := congrArg String.toList h
  simp only [DateFields.text, ClockFields.text, String.toList_append, String.reduceToList,
    List.append_assoc, List.cons_append, List.nil_append] at hchars
  obtain ⟨hyear, hchars⟩ := digits_eq_of_append_eq hd.year.2 hd'.year.2 rfl hchars
  obtain ⟨hmonth, hchars⟩ := digits_eq_of_append_eq hd.month.2 hd'.month.2 rfl hchars
  obtain ⟨hday, hchars⟩ := digits_eq_of_append_eq hd.day.2 hd'.day.2 rfl hchars
  obtain ⟨hhour, hchars⟩ := digits_eq_of_append_eq hc.hour.2 hc'.hour.2 rfl hchars
  obtain ⟨hminute, hchars⟩ := digits_eq_of_append_eq hc.minute.2 hc'.minute.2 rfl hchars
  obtain ⟨hsecond, hchars⟩ := digits_eq_of_append_eq hc.second.2 hc'.second.2 rfl hchars
  obtain ⟨hmillisecond, -⟩ := digits_eq_of_append_eq hc.millisecond.2 hc'.millisecond.2 rfl hchars
  simp only [String.toList_inj] at hyear hmonth hday hhour hminute hsecond hmillisecond
  rw [hyear, hmonth, hday, hhour, hminute, hsecond, hmillisecond]
  exact ⟨rfl, rfl⟩

/-! ## Literals -/

/-- A reading without what is left of its last millisecond. -/
def Clock.toMillisecond (c : Clock) : Clock :=
  { c with microsecond := c.microsecond / 1000 * 1000 }

theorem Clock.valid_toMillisecond {c : Clock} (hc : c.Valid) : c.toMillisecond.Valid := by
  obtain ⟨hhour, hminute, hsecond, hmicrosecond⟩ := hc
  have hle := Nat.div_mul_le_self c.microsecond 1000
  exact ⟨hhour, hminute, hsecond, Nat.lt_of_le_of_lt hle hmicrosecond⟩

theorem ClockFields.clock_ofClock (c : Clock) : (ofClock c).clock = c.toMillisecond := by
  simp only [clock, ofClock, fieldValue_padded]
  rfl

theorem ClockFields.ofClock_toMillisecond (c : Clock) : ofClock c.toMillisecond = ofClock c := by
  have hsame : c.microsecond / 1000 * 1000 / 1000 = c.microsecond / 1000 :=
    Nat.mul_div_cancel _ (by decide)
  simp only [ofClock, Clock.toMillisecond, hsame]

namespace DateTime

theorem instant_toMillisecond (date : Date) (clock : Clock) :
    (⟨date, clock.toMillisecond, none, false⟩ : DateTime).instant ⟨0⟩ =
      (⟨date, clock, none, false⟩ : DateTime).instant ⟨0⟩ / 1000 * 1000 := by
  have hday : dayMicroseconds = 86400000000 := rfl
  have hseconds : clock.toMillisecond.seconds = clock.seconds := rfl
  have hmicrosecond : clock.toMillisecond.microsecond = clock.microsecond / 1000 * 1000 := rfl
  simp only [instant, Clock.microseconds, hseconds, hmicrosecond, hday]
  omega

/-- The literal of a point in time has the fields of its reading in UTC. -/
theorem literalText_of_utc? {t : DateTime} {offset : Duration} {date : Date} {clock : Clock}
    (hoffset : t.offset = some offset) (hutc : t.utc? offset = some (date, clock))
    (clause : Clause) :
    (Value.datetime t).literalText clause =
      .ok ("cast(" ++ ((DateFields.ofDate 1 date).text ++ "T" ++ (ClockFields.ofClock clock).text ++
        "Z") ++ ",Edm.DateTimeOffset)") := by
  have hliteral : (Value.datetime t).literal = .ok (.instant date clock) := by
    simp only [Value.literal, hoffset, hutc]
  rw [Value.literalText, hliteral]
  apply congrArg Except.ok
  apply String.toList_inj.mp
  simp only [Literal.toText, Literal.cast, Literal.instantText, Clock.millisecondText, Clock.toText,
    Date.text, DateFields.text, DateFields.ofDate, ClockFields.text, ClockFields.ofClock,
    String.toList_append, String.reduceToList, List.append_assoc, List.cons_append, List.nil_append]

end DateTime

/-- The literal of a date has its fields, the year in four digits. -/
theorem Date.literalText_date (d : Date) (clause : Clause) :
    (Value.date d).literalText clause =
      .ok ("cast(" ++ (DateFields.ofDate 4 d).text ++ ",Edm.Date)") := by
  apply congrArg Except.ok
  apply String.toList_inj.mp
  simp only [Literal.toText, Literal.cast, Date.text, DateFields.text, DateFields.ofDate,
    String.toList_append, String.reduceToList, List.append_assoc, List.cons_append, List.nil_append]

namespace DateTime

/--
The literals of points in time and of dates are made of fields of fixed widths, except that the
year of a point in time is its plain decimal text, and these fields give back what they are made
of: the point in time down to the millisecond, and the date.
-/
theorem literalText_wellFormed (clause : Clause) :
    (∀ (t : DateTime) (offset : Duration), t.Valid → t.offset = some offset → t.InCalendar offset →
      ∃ (d : DateFields) (c : ClockFields),
        (Value.datetime t).literalText clause =
          .ok ("cast(" ++ (d.text ++ "T" ++ c.text ++ "Z") ++ ",Edm.DateTimeOffset)") ∧
        d.WellFormed ∧ c.WellFormed ∧
        d.year = d.date.year.repr ∧ (IsField 4 d.year ↔ 1000 ≤ d.date.year) ∧
        d.date.Valid ∧ c.clock.Valid ∧
        (⟨d.date, c.clock, none, false⟩ : DateTime).instant ⟨0⟩ = t.instant offset / 1000 * 1000) ∧
    ∀ d : Date, d.Valid → ∃ f : DateFields,
      (Value.date d).literalText clause = .ok ("cast(" ++ f.text ++ ",Edm.Date)") ∧
        f.WellFormed ∧ IsField 4 f.year ∧ f.date = d := by
  constructor
  · intro t offset ht hoffset hwithin
    obtain ⟨date, clock, hutc⟩ := (exists_utc?_iff ht hoffset).mpr hwithin
    obtain ⟨hdate, hclock, hinstant⟩ := (utc?_eq_some_iff ht hoffset).mp hutc
    have hyear : date.year < 10000 := Nat.lt_succ_of_le hdate.2.1
    have hplain : (DateFields.ofDate 1 date).year = date.year.repr := padded_one date.year
    refine ⟨DateFields.ofDate 1 date, ClockFields.ofClock clock,
      literalText_of_utc? hoffset hutc clause, DateFields.wellFormed_ofDate 1 hdate,
      ClockFields.wellFormed_ofClock hclock, ?_⟩
    rw [DateFields.date_ofDate, ClockFields.clock_ofClock, hplain, instant_toMillisecond, hinstant]
    exact ⟨rfl, isField_repr_iff hyear, hdate, Clock.valid_toMillisecond hclock, rfl⟩
  · intro d hd
    have hyear : d.year < 10 ^ 4 := Nat.lt_succ_of_le hd.2.1
    exact ⟨DateFields.ofDate 4 d, Date.literalText_date d clause,
      DateFields.wellFormed_ofDate 4 hd, isField_padded (by decide) hyear,
      DateFields.date_ofDate 4 d⟩

/-- The end of the calendar, by a clock that is almost a day behind. -/
def lastMoment : DateTime :=
  ⟨⟨9999, 12, 31⟩, ⟨0, 0, 0, 0⟩, some (.fixed ⟨-86399999999⟩), false⟩

theorem literalText_wellFormed_lastMoment :
    lastMoment.Valid ∧ lastMoment.InCalendar ⟨-86399999999⟩ ∧ (⟨33, 1, 1⟩ : Date).Valid ∧
      (∃ (d : DateFields) (c : ClockFields),
        (Value.datetime lastMoment).literalText Clause.filter =
          .ok ("cast(" ++ (d.text ++ "T" ++ c.text ++ "Z") ++ ",Edm.DateTimeOffset)") ∧
        d.WellFormed ∧ c.WellFormed ∧
        (⟨d.date, c.clock, none, false⟩ : DateTime).instant ⟨0⟩ =
          lastMoment.instant ⟨-86399999999⟩ / 1000 * 1000) ∧
      ∃ f : DateFields,
        (Value.date ⟨33, 1, 1⟩).literalText Clause.filter =
          .ok ("cast(" ++ f.text ++ ",Edm.Date)") ∧ IsField 4 f.year ∧ f.date = ⟨33, 1, 1⟩ := by
  have hvalid : lastMoment.Valid := valid_at (by decide) (by decide) (by decide)
  have hwithin : lastMoment.InCalendar ⟨-86399999999⟩ := by decide
  have hdate : (⟨33, 1, 1⟩ : Date).Valid := by decide
  obtain ⟨d, c, htext, hd, hc, -, -, -, -, hinstant⟩ :=
    (literalText_wellFormed Clause.filter).1 lastMoment ⟨-86399999999⟩ hvalid rfl hwithin
  obtain ⟨f, hdateText, -, hyear, hback⟩ := (literalText_wellFormed Clause.filter).2 _ hdate
  exact ⟨hvalid, hwithin, hdate, ⟨d, c, htext, hd, hc, hinstant⟩, f, hdateText, hyear, hback⟩

/-- A new year in UTC before the year 1000. -/
def earlyNewYear : DateTime :=
  ⟨⟨33, 1, 1⟩, ⟨0, 0, 0, 0⟩, some (.fixed ⟨0⟩), false⟩

/-- The literal of the early new year has no four digits for the year. -/
theorem literalText_earlyNewYear :
    earlyNewYear.Valid ∧ earlyNewYear.InCalendar ⟨0⟩ ∧
      (Value.datetime earlyNewYear).literalText Clause.filter =
        .ok "cast(33-01-01T00:00:00.000Z,Edm.DateTimeOffset)" ∧
      ¬ ∃ (d : DateFields) (c : ClockFields),
        (Value.datetime earlyNewYear).literalText Clause.filter =
          .ok ("cast(" ++ (d.text ++ "T" ++ c.text ++ "Z") ++ ",Edm.DateTimeOffset)") ∧
        d.WellFormed ∧ c.WellFormed ∧ IsField 4 d.year := by
  have hvalid : earlyNewYear.Valid := valid_at (by decide) (by decide) (by decide)
  have hwithin : earlyNewYear.InCalendar ⟨0⟩ := by decide
  have htext : (Value.datetime earlyNewYear).literalText Clause.filter =
      .ok "cast(33-01-01T00:00:00.000Z,Edm.DateTimeOffset)" := rfl
  refine ⟨hvalid, hwithin, htext, ?_⟩
  rintro ⟨d, c, hfields, hd, hc, hyear⟩
  rw [htext] at hfields
  have hlength := congrArg String.length (Except.ok.inj hfields)
  have hplain : "cast(33-01-01T00:00:00.000Z,Edm.DateTimeOffset)".length = 47 := by decide
  have hbefore : "cast(".length = 5 := by decide
  have hafter : ",Edm.DateTimeOffset)".length = 20 := by decide
  simp only [DateFields.text, ClockFields.text, String.length_append, hplain, hbefore, hafter,
    hyear.1, hd.month.1, hd.day.1, hc.hour.1, hc.minute.1, hc.second.1, hc.millisecond.1]
    at hlength
  exact absurd hlength (by decide)

/-- Points in time of the calendar have one literal exactly if they lie in one millisecond. -/
theorem literalText_eq_iff_millisecond {s t : DateTime} (hs : s.Valid) (ht : t.Valid)
    {x y : Duration} (hx : s.offset = some x) (hy : t.offset = some y)
    (hsx : s.InCalendar x) (hty : t.InCalendar y) (clause : Clause) :
    ∃ a b, (Value.datetime s).literalText clause = .ok a ∧
      (Value.datetime t).literalText clause = .ok b ∧
      (a = b ↔ s.instant x / 1000 = t.instant y / 1000) := by
  obtain ⟨date, clock, hutc⟩ := (exists_utc?_iff hs hx).mpr hsx
  obtain ⟨date', clock', hutc'⟩ := (exists_utc?_iff ht hy).mpr hty
  obtain ⟨hdate, hclock, hinstant⟩ := (utc?_eq_some_iff hs hx).mp hutc
  obtain ⟨hdate', hclock', hinstant'⟩ := (utc?_eq_some_iff ht hy).mp hutc'
  refine ⟨_, _, literalText_of_utc? hx hutc clause, literalText_of_utc? hy hutc' clause, ?_⟩
  rw [← hinstant, ← hinstant', String.append_left_inj, String.append_right_inj]
  constructor
  · intro htext
    obtain ⟨hfields, hclocks⟩ := fields_eq_of_text_eq (DateFields.wellFormed_ofDate 1 hdate)
      (DateFields.wellFormed_ofDate 1 hdate') (ClockFields.wellFormed_ofClock hclock)
      (ClockFields.wellFormed_ofClock hclock') htext
    have hdates : date = date' := by
      rw [← DateFields.date_ofDate 1 date, hfields, DateFields.date_ofDate]
    have hreadings : clock.toMillisecond = clock'.toMillisecond := by
      rw [← ClockFields.clock_ofClock, hclocks, ClockFields.clock_ofClock]
    have hsame := instant_toMillisecond date clock
    rw [hdates, hreadings, instant_toMillisecond] at hsame
    rw [hdates]
    omega
  · intro hmillisecond
    obtain ⟨hdates, hreadings⟩ := reading_eq_of_instant_eq hdate (Clock.valid_toMillisecond hclock)
      hdate' (Clock.valid_toMillisecond hclock')
      (by rw [instant_toMillisecond, instant_toMillisecond, hmillisecond])
    rw [hdates, ← ClockFields.ofClock_toMillisecond clock, hreadings,
      ClockFields.ofClock_toMillisecond]

/-- A moment before the year 2000, by a clock that is half a millisecond behind. -/
def newYearsEve : DateTime :=
  ⟨⟨1999, 12, 31⟩, ⟨23, 59, 59, 999400⟩, some (.fixed ⟨-500⟩), false⟩

/-- Less than a millisecond earlier, by a clock five and a half hours ahead. -/
def newYearInDelhi : DateTime :=
  ⟨⟨2000, 1, 1⟩, ⟨5, 29, 59, 999100⟩, some (.fixed ⟨19800000000⟩), false⟩

theorem literalText_eq_iff_millisecond_newYear :
    newYearsEve.Valid ∧ newYearInDelhi.Valid ∧ newYearsEve.InCalendar ⟨-500⟩ ∧
      newYearInDelhi.InCalendar ⟨19800000000⟩ ∧
      ∃ a, (Value.datetime newYearsEve).literalText Clause.filter = .ok a ∧
        (Value.datetime newYearInDelhi).literalText Clause.filter = .ok a := by
  have heve : newYearsEve.Valid := valid_at (by decide) (by decide) (by decide)
  have hdelhi : newYearInDelhi.Valid := valid_at (by decide) (by decide) (by decide)
  have heveWithin : newYearsEve.InCalendar ⟨-500⟩ := by decide
  have hdelhiWithin : newYearInDelhi.InCalendar ⟨19800000000⟩ := by decide
  obtain ⟨a, b, ha, hb, hsame⟩ := literalText_eq_iff_millisecond heve hdelhi rfl rfl heveWithin
    hdelhiWithin Clause.filter
  have hmillisecond : newYearsEve.instant ⟨-500⟩ / 1000 =
      newYearInDelhi.instant ⟨19800000000⟩ / 1000 := by decide
  rw [← hsame.mpr hmillisecond] at hb
  exact ⟨heve, hdelhi, heveWithin, hdelhiWithin, a, ha, hb⟩

end DateTime

end PagedTables
