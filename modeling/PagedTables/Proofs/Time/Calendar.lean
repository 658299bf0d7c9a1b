import PagedTables.Time.Clock

/-!
# Points in time on the calendar

The days of the calendar are numbered without a gap, so a day is known by its number, and the days
before and after it are those of the neighbouring numbers. A reading in UTC is in the same way
known by its point in time.

The main result says that the conversion to UTC finds the reading of the same point in time if the
calendar has one. It does exactly for the points in time from the first midnight of the calendar to
the end of its last day, and the reading depends on the point in time alone.
-/
namespace PagedTables

/-! ## Numbers of days -/

namespace Date

variable {d e : Date} {year month : Nat}

theorem daysBeforeMonth_succ (year : Nat) (h : 1 ≤ month) :
    daysBeforeMonth year (month + 1) = daysBeforeMonth year month + daysInMonth year month := by
  obtain ⟨m, rfl⟩ := Nat.exists_eq_add_of_le' h
  rfl

theorem daysBeforeMonth_add_le {later : Nat} (year : Nat) (hmonth : 1 ≤ month) (h : month < later) :
    daysBeforeMonth year month + daysInMonth year month ≤ daysBeforeMonth year later := by
  induction h with
  | refl => exact Nat.le_of_eq (daysBeforeMonth_succ year hmonth).symm
  | @step m hm ih =>
      have hpositive : 1 ≤ m := Nat.le_trans hmonth (Nat.le_of_succ_le hm)
      rw [daysBeforeMonth_succ year hpositive]
      exact Nat.le_trans ih (Nat.le_add_right _ _)

theorem daysBeforeMonth_thirteen :
    daysBeforeMonth year 13 = if isLeapYear year then 366 else 365 := by
  simp only [daysBeforeMonth, daysInMonth]
  cases isLeapYear year <;> rfl

/-- Among the multiples of 4 there are those of 100, and among these those of 400. -/
theorem daysBeforeYear_succ (h : 1 ≤ year) :
    daysBeforeYear (year + 1) = daysBeforeYear year + daysBeforeMonth year 13 := by
  obtain ⟨past, rfl⟩ := Nat.exists_eq_add_of_le' h
  have hle : past / 100 ≤ past := Nat.div_le_self past 100
  rw [daysBeforeMonth_thirteen]
  simp only [daysBeforeYear, Nat.add_sub_cancel, Nat.succ_div, Nat.dvd_iff_mod_eq_zero, isLeapYear]
  by_cases h4 : (past + 1) % 4 = 0
  · by_cases h100 : (past + 1) % 100 = 0
    · by_cases h400 : (past + 1) % 400 = 0
      · simp [h4, h100, h400]
        omega
      · simp [h4, h100, h400]
        omega
    · have h400 : (past + 1) % 400 ≠ 0 := by omega
      simp [h4, h100, h400]
      omega
  · have h100 : (past + 1) % 100 ≠ 0 := by omega
    have h400 : (past + 1) % 400 ≠ 0 := by omega
    simp [h4, h100, h400]
    omega

theorem daysBeforeYear_add_le {later : Nat} (hyear : 1 ≤ year) (h : year < later) :
    daysBeforeYear year + daysBeforeMonth year 13 ≤ daysBeforeYear later := by
  induction h with
  | refl => exact Nat.le_of_eq (daysBeforeYear_succ hyear).symm
  | @step y hy ih =>
      have hpositive : 1 ≤ y := Nat.le_trans hyear (Nat.le_of_succ_le hy)
      rw [daysBeforeYear_succ hpositive]
      exact Nat.le_trans ih (Nat.le_add_right _ _)

theorem ordinal_le_of_valid (hd : d.Valid) :
    d.ordinal ≤ daysBeforeYear d.year + daysBeforeMonth d.year 13 := by
  obtain ⟨-, -, hmonth, hmonths, -, hdays⟩ := hd
  have hbefore := daysBeforeMonth_add_le d.year hmonth
    (show d.month < 13 from Nat.lt_succ_of_le hmonths)
  rw [ordinal]
  omega

theorem ordinal_lt_of_year_lt (hd : d.Valid) (he : e.Valid) (h : d.year < e.year) :
    d.ordinal < e.ordinal := by
  obtain ⟨-, -, -, -, hday, -⟩ := he
  calc
    d.ordinal ≤ daysBeforeYear d.year + daysBeforeMonth d.year 13 := ordinal_le_of_valid hd
    _ ≤ daysBeforeYear e.year := daysBeforeYear_add_le hd.1 h
    _ < e.ordinal := by
      rw [ordinal]
      omega

theorem ordinal_lt_of_month_lt (hd : d.Valid) (he : e.Valid)
    (hyear : d.year = e.year) (h : d.month < e.month) : d.ordinal < e.ordinal := by
  obtain ⟨-, -, hmonth, -, -, hdays⟩ := hd
  obtain ⟨-, -, -, -, hday, -⟩ := he
  have hbefore := daysBeforeMonth_add_le d.year hmonth h
  rw [ordinal, ordinal, ← hyear]
  omega

theorem eq_of_ordinal_eq (hd : d.Valid) (he : e.Valid) (h : d.ordinal = e.ordinal) : d = e := by
  have hyear : d.year = e.year := by
    rcases Nat.lt_trichotomy d.year e.year with hlt | heq | hgt
    · exact absurd h (Nat.ne_of_lt (ordinal_lt_of_year_lt hd he hlt))
    · exact heq
    · exact absurd h.symm (Nat.ne_of_lt (ordinal_lt_of_year_lt he hd hgt))
  have hmonth : d.month = e.month := by
    rcases Nat.lt_trichotomy d.month e.month with hlt | heq | hgt
    · exact absurd h (Nat.ne_of_lt (ordinal_lt_of_month_lt hd he hyear hlt))
    · exact heq
    · exact absurd h.symm (Nat.ne_of_lt (ordinal_lt_of_month_lt he hd hyear.symm hgt))
  have hday : d.day = e.day := by
    rw [ordinal, ordinal, hyear, hmonth] at h
    exact Nat.add_left_cancel h
  cases d
  cases e
  congr

/-! ## Neighbouring days -/

theorem one_le_daysInMonth (year month : Nat) : 1 ≤ daysInMonth year month := by
  unfold daysInMonth
  split
  · split <;> decide
  · split <;> decide

theorem daysInMonth_le (year month : Nat) : daysInMonth year month ≤ 31 := by
  unfold daysInMonth
  split
  · split <;> decide
  · split <;> decide

theorem ordinal_of_next? (hd : d.Valid) (h : d.next? = some e) :
    e.Valid ∧ e.ordinal = d.ordinal + 1 := by
  obtain ⟨hyear, hyears, hmonth, hmonths, hday, hdays⟩ := hd
  rw [next?] at h
  split at h
  · next hwithin =>
      cases h
      exact ⟨⟨hyear, hyears, hmonth, hmonths, Nat.le_add_left 1 _, hwithin⟩, rfl⟩
  · next hlast =>
      have hlastDay : d.day = daysInMonth d.year d.month :=
        Nat.le_antisymm hdays (Nat.le_of_not_lt hlast)
      split at h
      · next hwithin =>
          cases h
          refine ⟨⟨hyear, hyears, Nat.le_add_left 1 _, hwithin, Nat.le_refl 1,
            one_le_daysInMonth _ _⟩, ?_⟩
          simp only [ordinal]
          rw [daysBeforeMonth_succ d.year hmonth, hlastDay]
          omega
      · next hlastMonth =>
          have htwelve : d.month = 12 := Nat.le_antisymm hmonths (Nat.le_of_not_lt hlastMonth)
          split at h
          · next hwithin =>
              cases h
              refine ⟨⟨Nat.le_add_left 1 _, hwithin, Nat.le_refl 1, Nat.le_add_left 1 11,
                Nat.le_refl 1, one_le_daysInMonth _ _⟩, ?_⟩
              have hjanuary : daysBeforeMonth (d.year + 1) 1 = 0 := rfl
              simp only [ordinal, hjanuary]
              rw [daysBeforeYear_succ hyear, daysBeforeMonth_succ _ (show 1 ≤ 12 by decide),
                hlastDay, htwelve]
              omega
          · cases h

theorem ordinal_of_next?_eq_none (hd : d.Valid) (h : d.next? = none) :
    d.ordinal = daysBeforeYear (lastYear + 1) := by
  obtain ⟨hyear, hyears, hmonth, hmonths, hday, hdays⟩ := hd
  simp only [next?] at h
  split at h
  · cases h
  · split at h
    · cases h
    · split at h
      · cases h
      · have hlastYear : d.year = lastYear := by omega
        have hlastMonth : d.month = 12 := by omega
        have hlastDay : d.day = daysInMonth d.year d.month := by omega
        rw [← hlastYear, daysBeforeYear_succ hyear, daysBeforeMonth_succ _ (show 1 ≤ 12 by decide),
          ordinal, hlastDay, hlastMonth, Nat.add_assoc]

theorem ordinal_of_previous? (hd : d.Valid) (h : d.previous? = some e) :
    e.Valid ∧ e.ordinal + 1 = d.ordinal := by
  obtain ⟨hyear, hyears, hmonth, hmonths, hday, hdays⟩ := hd
  rw [previous?] at h
  split at h
  · next hwithin =>
      cases h
      refine ⟨⟨hyear, hyears, hmonth, hmonths, Nat.le_sub_one_of_lt hwithin,
        Nat.le_trans (Nat.sub_le _ _) hdays⟩, ?_⟩
      simp only [ordinal]
      omega
  · next hfirst =>
      have hfirstDay : d.day = 1 := by omega
      split at h
      · next hwithin =>
          cases h
          have hbefore : 1 ≤ d.month - 1 := Nat.le_sub_one_of_lt hwithin
          refine ⟨⟨hyear, hyears, hbefore, Nat.le_trans (Nat.sub_le _ _) hmonths,
            one_le_daysInMonth _ _, Nat.le_refl _⟩, ?_⟩
          have hmonthBefore := daysBeforeMonth_succ d.year hbefore
          rw [Nat.sub_add_cancel hmonth] at hmonthBefore
          simp only [ordinal]
          omega
      · next hfirstMonth =>
          have hone : d.month = 1 := by omega
          split at h
          · next hwithin =>
              cases h
              have hbefore : 1 ≤ d.year - 1 := Nat.le_sub_one_of_lt hwithin
              refine ⟨⟨hbefore, Nat.le_trans (Nat.sub_le _ _) hyears, Nat.le_add_left 1 11,
                Nat.le_refl 12, Nat.le_add_left 1 30, Nat.le_refl 31⟩, ?_⟩
              have hyearBefore := daysBeforeYear_succ hbefore
              rw [Nat.sub_add_cancel hyear, daysBeforeMonth_succ _ (show 1 ≤ 12 by decide)]
                at hyearBefore
              have hdecember : daysInMonth (d.year - 1) 12 = 31 := rfl
              have hjanuary : daysBeforeMonth d.year 1 = 0 := rfl
              simp only [ordinal, hfirstDay, hone, hjanuary]
              omega
          · cases h

theorem ordinal_of_previous?_eq_none (hd : d.Valid) (h : d.previous? = none) : d.ordinal = 1 := by
  obtain ⟨hyear, hyears, hmonth, hmonths, hday, hdays⟩ := hd
  simp only [previous?] at h
  split at h
  · cases h
  · split at h
    · cases h
    · split at h
      · cases h
      · have hfirstYear : d.year = 1 := by omega
        have hfirstMonth : d.month = 1 := by omega
        have hfirstDay : d.day = 1 := by omega
        rw [ordinal, hfirstYear, hfirstMonth, hfirstDay]
        rfl

theorem ordinal_le_last (hd : d.Valid) : d.ordinal ≤ daysBeforeYear (lastYear + 1) :=
  Nat.le_trans (ordinal_le_of_valid hd) (daysBeforeYear_add_le hd.1 (Nat.lt_succ_of_le hd.2.1))

theorem next?_eq_some_iff (hd : d.Valid) :
    d.next? = some e ↔ e.Valid ∧ e.ordinal = d.ordinal + 1 := by
  constructor
  · exact ordinal_of_next? hd
  · rintro ⟨he, hordinal⟩
    cases hnext : d.next? with
    | none =>
        have hlast := ordinal_of_next?_eq_none hd hnext
        have hle := ordinal_le_last he
        omega
    | some f =>
        obtain ⟨hf, hf'⟩ := ordinal_of_next? hd hnext
        rw [eq_of_ordinal_eq hf he (hf'.trans hordinal.symm)]

theorem previous?_eq_some_iff (hd : d.Valid) :
    d.previous? = some e ↔ e.Valid ∧ e.ordinal + 1 = d.ordinal := by
  constructor
  · exact ordinal_of_previous? hd
  · rintro ⟨he, hordinal⟩
    cases hprevious : d.previous? with
    | none =>
        have hfirst := ordinal_of_previous?_eq_none hd hprevious
        have hday : 1 ≤ e.day := he.2.2.2.2.1
        rw [hfirst, ordinal] at hordinal
        omega
    | some f =>
        obtain ⟨hf, hf'⟩ := ordinal_of_previous? hd hprevious
        rw [eq_of_ordinal_eq hf he (Nat.add_right_cancel (hf'.trans hordinal.symm))]

/-- Steps of at most a day reach the day with the number in question, if the calendar has it. -/
theorem step?_eq_some_iff (hd : d.Valid) {days : Int} (hdays : days.natAbs ≤ 1) :
    d.step? days = some e ↔ e.Valid ∧ (e.ordinal : Int) = d.ordinal + days := by
  rw [step?]
  rcases Int.lt_trichotomy days 0 with hneg | rfl | hpos
  · have hback : days = -1 := by omega
    rw [if_pos hneg, previous?_eq_some_iff hd]
    apply and_congr_right
    intro he
    omega
  · rw [if_neg (by decide), if_neg (by decide), Int.add_zero, Int.natCast_inj]
    constructor
    · rintro ⟨⟩
      exact ⟨hd, rfl⟩
    · rintro ⟨he, hordinal⟩
      rw [eq_of_ordinal_eq hd he hordinal.symm]
  · have hforward : days = 1 := by omega
    rw [if_neg (Int.not_lt.mpr (Int.le_of_lt hpos)), if_pos hpos, next?_eq_some_iff hd]
    apply and_congr_right
    intro he
    omega

/-- Every number up to that of the last day is the number of a day. -/
theorem exists_ordinal_eq {n : Nat} (hn : 1 ≤ n) (hlast : n ≤ daysBeforeYear (lastYear + 1)) :
    ∃ d : Date, d.Valid ∧ d.ordinal = n := by
  induction hn with
  | refl => exact ⟨⟨1, 1, 1⟩, by decide, rfl⟩
  | step hn ih =>
      obtain ⟨d, hd, hordinal⟩ := ih (Nat.le_of_succ_le hlast)
      have hmore : d.next? ≠ none := by
        intro hnone
        have hend := ordinal_of_next?_eq_none hd hnone
        omega
      obtain ⟨e, he⟩ := Option.ne_none_iff_exists'.mp hmore
      obtain ⟨hvalid, hnext⟩ := ordinal_of_next? hd he
      exact ⟨e, hvalid, by rw [hnext, hordinal]⟩

theorem one_le_ordinal (hd : d.Valid) : 1 ≤ d.ordinal := by
  have hday : 1 ≤ d.day := hd.2.2.2.2.1
  rw [ordinal]
  omega

end Date

/-! ## Readings in UTC -/

theorem Clock.seconds_lt {c : Clock} (hc : c.Valid) : c.seconds < daySeconds := by
  obtain ⟨hhour, hminute, hsecond, -⟩ := hc
  simp only [seconds, daySeconds]
  omega

theorem Clock.ofSeconds_eq_iff {c : Clock} {n m : Nat} (hn : n < daySeconds) (hm : m < 1000000) :
    ofSeconds n m = c ↔ c.Valid ∧ c.seconds = n ∧ c.microsecond = m := by
  simp only [daySeconds] at hn
  constructor
  · rintro rfl
    refine ⟨⟨?_, ?_, ?_, hm⟩, ?_, rfl⟩
    all_goals
      simp only [ofSeconds, seconds]
      omega
  · rintro ⟨⟨hhour, hminute, hsecond, -⟩, hseconds, hmicrosecond⟩
    rcases c with ⟨hour, minute, second, microsecond⟩
    simp only [seconds] at hhour hminute hsecond hseconds hmicrosecond
    simp only [ofSeconds, mk.injEq]
    omega

theorem Clock.microseconds_lt {c : Clock} (hc : c.Valid) : c.microseconds < dayMicroseconds := by
  have hseconds := seconds_lt hc
  have hmicrosecond : c.microsecond < 1000000 := hc.2.2.2
  simp only [daySeconds] at hseconds
  simp only [microseconds, dayMicroseconds, daySeconds, Duration.perSecond]
  omega

/-- The date and the reading are those of some clock, at less than a day from UTC. -/
structure DateTime.Valid (t : DateTime) : Prop where
  date : t.date.Valid
  clock : t.clock.Valid
  offset : ∀ offset, t.offset = some offset → offset.microseconds.natAbs < dayMicroseconds

namespace DateTime

theorem valid_at {date : Date} {clock : Clock} {offset : Duration} (hdate : date.Valid)
    (hclock : clock.Valid) (hoffset : offset.microseconds.natAbs < dayMicroseconds) :
    (⟨date, clock, some (.fixed offset), false⟩ : DateTime).Valid := by
  refine ⟨hdate, hclock, ?_⟩
  rintro offset ⟨⟩
  exact hoffset

/-- The reading in UTC is the one of the same point in time. -/
theorem utc?_eq_some_iff {t : DateTime} (ht : t.Valid) {offset : Duration}
    (hoffset : t.offset = some offset) {date : Date} {clock : Clock} :
    t.utc? offset = some (date, clock) ↔
      date.Valid ∧ clock.Valid ∧
        (⟨date, clock, none, false⟩ : DateTime).instant ⟨0⟩ = t.instant offset := by
  have hday : dayMicroseconds = 86400000000 := rfl
  have hwithin := Clock.microseconds_lt ht.clock
  have hbound := ht.offset offset hoffset
  obtain ⟨past, hpast⟩ : ∃ past : Int, past = t.clock.microseconds - offset.microseconds := ⟨_, rfl⟩
  rw [hday] at hwithin hbound
  have hdays : (past / 86400000000).natAbs ≤ 1 := by omega
  have hseconds : (past % 86400000000).toNat / 1000000 < daySeconds := by
    rw [daySeconds]
    omega
  have hrest : (past % 86400000000).toNat % 1000000 < 1000000 := Nat.mod_lt _ (by decide)
  have hparts : t.utc? offset = some (date, clock) ↔
      t.date.step? (past / 86400000000) = some date ∧
        Clock.ofSeconds ((past % 86400000000).toNat / 1000000)
          ((past % 86400000000).toNat % 1000000) = clock := by
    rw [utc?, Option.map_eq_some_iff, hpast]
    constructor
    · rintro ⟨day, hday, ⟨⟩⟩
      exact ⟨hday, rfl⟩
    · rintro ⟨hday, rfl⟩
      exact ⟨date, hday, rfl⟩
  rw [hparts, Date.step?_eq_some_iff ht.date hdays, Clock.ofSeconds_eq_iff hseconds hrest]
  simp only [instant, hday]
  constructor
  · rintro ⟨⟨hdate, hordinal⟩, hclock, hsame, hmicroseconds⟩
    have hreading : clock.microseconds = (past % 86400000000).toNat := by
      rw [Clock.microseconds, hsame, hmicroseconds]
      omega
    exact ⟨hdate, hclock, by omega⟩
  · rintro ⟨hdate, hclock, hinstant⟩
    have hreading := Clock.microseconds_lt hclock
    have hmicrosecond : clock.microsecond < 1000000 := hclock.2.2.2
    rw [hday] at hreading
    have hsplit : clock.microseconds = clock.seconds * 1000000 + clock.microsecond := rfl
    refine ⟨⟨hdate, ?_⟩, hclock, ?_, ?_⟩
    · omega
    · omega
    · omega

/-- Whether there is a reading in UTC, and which one, depends on the point in time alone. -/
theorem utc?_eq_of_instant_eq {s t : DateTime} (hs : s.Valid) (ht : t.Valid) {x y : Duration}
    (hx : s.offset = some x) (hy : t.offset = some y) (h : s.instant x = t.instant y) :
    s.utc? x = t.utc? y := by
  apply Option.ext
  rintro ⟨date, clock⟩
  rw [utc?_eq_some_iff hs hx, utc?_eq_some_iff ht hy, h]

/-- A reading in UTC is known by its point in time. -/
theorem reading_eq_of_instant_eq {date date' : Date} {clock clock' : Clock}
    (hdate : date.Valid) (hclock : clock.Valid) (hdate' : date'.Valid) (hclock' : clock'.Valid)
    (h : (⟨date, clock, none, false⟩ : DateTime).instant ⟨0⟩ =
      (⟨date', clock', none, false⟩ : DateTime).instant ⟨0⟩) :
    date = date' ∧ clock = clock' := by
  have hvalid : (⟨date, clock, some (.fixed ⟨0⟩), false⟩ : DateTime).Valid :=
    valid_at hdate hclock (by decide)
  have hself := (utc?_eq_some_iff hvalid rfl).mpr ⟨hdate, hclock, rfl⟩
  have hother := (utc?_eq_some_iff hvalid rfl).mpr ⟨hdate', hclock', h.symm⟩
  rw [hself, Option.some.injEq, Prod.mk.injEq] at hother
  exact hother

/-- The point in time is not before the first midnight nor after the last day of the calendar. -/
def InCalendar (t : DateTime) (offset : Duration) : Prop :=
  ((⟨1, 1, 1⟩ : Date).ordinal : Int) * dayMicroseconds ≤ t.instant offset ∧
    t.instant offset < (((⟨lastYear, 12, 31⟩ : Date).ordinal : Int) + 1) * dayMicroseconds

instance (t : DateTime) (offset : Duration) : Decidable (t.InCalendar offset) :=
  inferInstanceAs (Decidable (_ ∧ _))

/-- There is a reading in UTC exactly for the points in time of the calendar. -/
theorem exists_utc?_iff {t : DateTime} (ht : t.Valid) {offset : Duration}
    (hoffset : t.offset = some offset) :
    (∃ date clock, t.utc? offset = some (date, clock)) ↔ t.InCalendar offset := by
  have hday : dayMicroseconds = 86400000000 := rfl
  have hfirst : (⟨1, 1, 1⟩ : Date).ordinal = 1 := rfl
  have hlast : (⟨lastYear, 12, 31⟩ : Date).ordinal = Date.daysBeforeYear (lastYear + 1) := rfl
  constructor
  · rintro ⟨date, clock, hutc⟩
    obtain ⟨hdate, hclock, hinstant⟩ := (utc?_eq_some_iff ht hoffset).mp hutc
    have hbelow := Clock.microseconds_lt hclock
    have hfrom := Date.one_le_ordinal hdate
    have hto := Date.ordinal_le_last hdate
    rw [InCalendar, ← hinstant, hfirst, hlast]
    simp only [instant, hday] at hbelow ⊢
    omega
  · intro hwithin
    rw [InCalendar, hfirst, hlast] at hwithin
    obtain ⟨n, hn⟩ : ∃ n : Nat, t.instant offset = n := Int.eq_ofNat_of_zero_le (by omega)
    rw [hn, hday] at hwithin
    obtain ⟨date, hdate, hordinal⟩ :=
      Date.exists_ordinal_eq (n := n / 86400000000) (by omega) (by omega)
    have hseconds : n % 86400000000 / 1000000 < daySeconds := by
      rw [daySeconds]
      omega
    obtain ⟨hclock, hsame, hmicrosecond⟩ := (Clock.ofSeconds_eq_iff hseconds
      (Nat.mod_lt (n % 86400000000) (show 0 < 1000000 by decide))).mp rfl
    refine ⟨date, _, (utc?_eq_some_iff ht hoffset).mpr ⟨hdate, hclock, ?_⟩⟩
    rw [hn]
    simp only [instant, Clock.microseconds, hordinal, hsame, hmicrosecond, hday]
    omega

end DateTime

end PagedTables
