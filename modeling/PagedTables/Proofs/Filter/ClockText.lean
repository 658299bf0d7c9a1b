import PagedTables.Proofs.Filter.TimeText

/-!
# Texts of times of day

A time of day is written as the reading of its clock, with milliseconds if there is a fraction of a
second. Its offset is not written. But times of day with offsets are compared by their readings in
UTC, so that equal ones may have different literals, and ones that are hours apart the same.

The main result says which times of day have the same literal, and that literals follow the values
as long as the offsets agree.
-/
namespace PagedTables

/-! ## Texts of readings -/

/-- A field is known by a text that it is in front of. -/
theorem IsField.append_inj {width : Nat} {s t : String} {as bs : List Char}
    (hs : IsField width s) (ht : IsField width t) (h : s.toList ++ as = t.toList ++ bs) :
    s = t ∧ as = bs := by
  obtain ⟨hchars, hrest⟩ := List.append_inj h (by
    rw [String.length_toList, String.length_toList, hs.1, ht.1])
  exact ⟨String.toList_inj.mp hchars, hrest⟩

theorem padded_injective {width n m : Nat} (h : Text.padded width n = Text.padded width m) :
    n = m := by
  rw [← fieldValue_padded width n, h, fieldValue_padded]

namespace Clock

variable {c c' : Clock}

/-- The hours, the minutes and the seconds are known by the seconds since midnight. -/
theorem fields_eq_of_seconds_eq (hc : c.Valid) (hc' : c'.Valid) (h : c.seconds = c'.seconds) :
    c.hour = c'.hour ∧ c.minute = c'.minute ∧ c.second = c'.second := by
  obtain ⟨-, hminute, hsecond, -⟩ := hc
  obtain ⟨-, hminute', hsecond', -⟩ := hc'
  simp only [seconds] at h
  omega

theorem eq_of_microseconds_eq (hc : c.Valid) (hc' : c'.Valid)
    (h : c.microseconds = c'.microseconds) : c = c' := by
  have hparts : c.seconds = c'.seconds ∧ c.microsecond = c'.microsecond := by
    obtain ⟨-, -, -, hfraction⟩ := hc
    obtain ⟨-, -, -, hfraction'⟩ := hc'
    simp only [microseconds] at h
    omega
  obtain ⟨hhour, hminute, hsecond⟩ := fields_eq_of_seconds_eq hc hc' hparts.1
  cases c
  cases c'
  simp_all

/-- A reading is known down to the millisecond by its seconds and milliseconds. -/
theorem millisecond_eq_iff (hc : c.Valid) (hc' : c'.Valid) :
    c.microseconds / 1000 = c'.microseconds / 1000 ↔
      c.seconds = c'.seconds ∧ c.microsecond / 1000 = c'.microsecond / 1000 := by
  obtain ⟨-, -, -, hfraction⟩ := hc
  obtain ⟨-, -, -, hfraction'⟩ := hc'
  simp only [microseconds]
  omega

/-- The text of a reading has its hours, its minutes and its seconds. -/
theorem toText_append_eq_iff (hc : c.Valid) (hc' : c'.Valid) (s s' : String) :
    c.toText ++ s = c'.toText ++ s' ↔ c.seconds = c'.seconds ∧ s = s' := by
  constructor
  · intro h
    have hfields := ClockFields.wellFormed_ofClock hc
    have hfields' := ClockFields.wellFormed_ofClock hc'
    have hchars := congrArg String.toList h
    simp only [toText, String.toList_append, String.reduceToList, List.append_assoc,
      List.cons_append, List.nil_append] at hchars
    obtain ⟨hhour, hchars⟩ := hfields.hour.append_inj hfields'.hour hchars
    obtain ⟨hminute, hchars⟩ := hfields.minute.append_inj hfields'.minute (List.cons.inj hchars).2
    obtain ⟨hsecond, hchars⟩ := hfields.second.append_inj hfields'.second (List.cons.inj hchars).2
    refine ⟨?_, String.toList_inj.mp hchars⟩
    rw [seconds, padded_injective hhour, padded_injective hminute, padded_injective hsecond]
    rfl
  · rintro ⟨hseconds, rfl⟩
    obtain ⟨hhour, hminute, hsecond⟩ := fields_eq_of_seconds_eq hc hc' hseconds
    rw [toText, hhour, hminute, hsecond]
    rfl

end Clock

/-- The texts agree if the readings do to the millisecond, and both or none has a fraction. -/
theorem Literal.timeText_eq_iff {c c' : Clock} (hc : c.Valid) (hc' : c'.Valid) :
    timeText c = timeText c' ↔ c.microseconds / 1000 = c'.microseconds / 1000 ∧
      (c.microsecond = 0 ↔ c'.microsecond = 0) := by
  rw [timeText, timeText, Clock.toText_append_eq_iff hc hc', Clock.millisecond_eq_iff hc hc',
    and_assoc]
  refine and_congr_right fun _ => ?_
  have hpoint (s : String) : "." ++ s ≠ "" := by
    rw [ne_eq, ← String.toList_inj]
    simp
  by_cases hzero : c.microsecond = 0
  · by_cases hzero' : c'.microsecond = 0
    · simp [hzero, hzero']
    · simp [hzero, hzero', (hpoint _).symm]
  · by_cases hzero' : c'.microsecond = 0
    · simp [hzero, hzero', hpoint]
    · rw [if_neg hzero, if_neg hzero', String.append_right_inj, Clock.millisecondText,
        Clock.millisecondText]
      simp only [hzero, hzero', and_true]
      exact ⟨padded_injective, fun h => by rw [h]⟩

/-! ## Literals -/

namespace TimeOfDay

/-- The seconds of the offset that count, none if there is no offset. -/
def offsetSeconds (t : TimeOfDay) : Option Int :=
  t.offset.map Duration.wholeSeconds

/-- The microseconds since midnight in UTC, or by the clock if there is no offset. -/
def reading (t : TimeOfDay) : Int :=
  t.clock.microseconds - t.offsetSeconds.getD 0 * 1000000

variable {s t : TimeOfDay}

/-- Times of day are the same if both or none has an offset and their readings are equal. -/
theorem same_iff (hs : s.clock.Valid) (ht : t.clock.Valid) :
    s.same t = true ↔ s.offset.isSome = t.offset.isSome ∧ s.reading = t.reading := by
  obtain ⟨clock, offset⟩ := s
  obtain ⟨clock', offset'⟩ := t
  rcases offset with _ | x <;> rcases offset' with _ | y
  · have hclocks : clock = clock' ↔ (clock.microseconds : Int) = clock'.microseconds := by
      rw [Int.natCast_inj]
      exact ⟨fun h => h ▸ rfl, Clock.eq_of_microseconds_eq hs ht⟩
    simpa [same, reading, offsetSeconds] using hclocks
  · simp [same]
  · simp [same]
  · simp [same, reading, offsetSeconds]

/--
Every time of day has a literal. Two of them are the same if the clocks agree to the millisecond,
and both or none has a fraction of a second. So equal times have the same literal exactly if the
seconds of their offsets agree, and if these agree, times that are a millisecond apart or more have
different ones.
-/
theorem literalText_eq_iff (hs : s.clock.Valid) (ht : t.clock.Valid) (clause : Clause) :
    ∃ a b, (Value.time s).literalText clause = .ok a ∧ (Value.time t).literalText clause = .ok b ∧
      (a = b ↔ s.clock.microseconds / 1000 = t.clock.microseconds / 1000 ∧
        (s.clock.microsecond = 0 ↔ t.clock.microsecond = 0)) ∧
      (s.same t = true → (a = b ↔ s.offsetSeconds = t.offsetSeconds)) ∧
      (s.offsetSeconds = t.offsetSeconds → 1000 ≤ (s.reading - t.reading).natAbs → a ≠ b) := by
  have htexts : Literal.cast (Literal.timeText s.clock) "TimeOfDay" =
      Literal.cast (Literal.timeText t.clock) "TimeOfDay" ↔
        s.clock.microseconds / 1000 = t.clock.microseconds / 1000 ∧
          (s.clock.microsecond = 0 ↔ t.clock.microsecond = 0) := by
    rw [Literal.cast, Literal.cast, String.append_left_inj, String.append_left_inj,
      String.append_left_inj, String.append_right_inj, Literal.timeText_eq_iff hs ht]
  refine ⟨_, _, rfl, rfl, htexts, ?_, ?_⟩
  · intro hsame
    obtain ⟨hboth, hreadings⟩ := (same_iff hs ht).mp hsame
    rw [reading, reading] at hreadings
    apply htexts.trans
    constructor
    · rintro ⟨hmillisecond, -⟩
      have hseconds : s.offsetSeconds.getD 0 = t.offsetSeconds.getD 0 := by omega
      rw [offsetSeconds, offsetSeconds] at hseconds ⊢
      cases hoffset : s.offset <;> cases hoffset' : t.offset <;> simp_all
    · intro hoffsets
      have hclocks : s.clock = t.clock := by
        apply Clock.eq_of_microseconds_eq hs ht
        rw [hoffsets] at hreadings
        omega
      rw [hclocks]
      exact ⟨rfl, Iff.rfl⟩
  · intro hoffsets hapart htext
    obtain ⟨hmillisecond, -⟩ := htexts.mp htext
    rw [reading, reading, hoffsets] at hapart
    omega

/-- A quarter of a second past ten, by a clock two hours ahead. -/
def tenAhead : TimeOfDay :=
  ⟨⟨10, 0, 0, 250000⟩, some (Duration.ofSeconds 7200)⟩

/-- The same by a clock that is half a second farther ahead, which does not count. -/
def tenFartherAhead : TimeOfDay :=
  ⟨⟨10, 0, 0, 250000⟩, some ⟨7200500000⟩⟩

theorem literalText_eq_iff_tenAhead :
    tenAhead.clock.Valid ∧ tenFartherAhead.clock.Valid ∧ tenAhead.same tenFartherAhead = true ∧
      tenAhead.offset ≠ tenFartherAhead.offset ∧
      ∃ a, (Value.time tenAhead).literalText Clause.filter = .ok a ∧
        (Value.time tenFartherAhead).literalText Clause.filter = .ok a := by
  have hten : tenAhead.clock.Valid := by decide
  have hfarther : tenFartherAhead.clock.Valid := by decide
  have hsame : tenAhead.same tenFartherAhead = true := by decide
  obtain ⟨a, b, ha, hb, -, hfollows, -⟩ := literalText_eq_iff hten hfarther Clause.filter
  rw [← (hfollows hsame).mpr (by decide)] at hb
  exact ⟨hten, hfarther, hsame, by decide, a, ha, hb⟩

/-- Ten o'clock, by a clock that is so many seconds ahead. -/
def tenAt (seconds : Int) : TimeOfDay :=
  ⟨⟨10, 0, 0, 0⟩, some (Duration.ofSeconds seconds)⟩

/-- Noon by a clock two hours ahead. -/
def noonAhead : TimeOfDay :=
  ⟨⟨12, 0, 0, 0⟩, some (Duration.ofSeconds 7200)⟩

/--
Equal times of day do not always have the same literal, and times of day with offsets that are hours
apart do not always have different ones.
-/
theorem literalText_noonAhead :
    (¬∀ s t : TimeOfDay, s.clock.Valid → t.clock.Valid → s.same t = true →
      (Value.time s).literalText Clause.filter = (Value.time t).literalText Clause.filter) ∧
    ¬∀ s t : TimeOfDay, s.clock.Valid → t.clock.Valid → s.offset.isSome → t.offset.isSome →
      1000 ≤ (s.reading - t.reading).natAbs →
      (Value.time s).literalText Clause.filter ≠ (Value.time t).literalText Clause.filter := by
  constructor
  · intro h
    have hsame := h (tenAt 0) noonAhead (by decide) (by decide) (by decide)
    cases hsame
  · intro h
    exact h (tenAt 0) (tenAt 7200) (by decide) (by decide) rfl rfl (by decide) rfl

end TimeOfDay

end PagedTables
