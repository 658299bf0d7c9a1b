import Mathlib.Data.List.TakeWhile
import PagedTables.Proofs.Filter.Grammar

/-!
# Texts of literals

Every literal is written as one: whole numbers, doubles and decimals as numbers, texts between
quotes with the quotes inside them doubled, and the others as casts of texts of plain characters.
-/
namespace PagedTables

/-! ## Digits -/

theorem isDigits_toDigits (n : Nat) : IsDigits (Nat.toDigits 10 n) :=
  ⟨Nat.toDigits_ne_nil, fun _ hc => Nat.isDigit_of_mem_toDigits (by decide) (by decide) hc⟩

theorem isDigit_of_mem_replicate_zero {n : Nat} {c : Char} (h : c ∈ List.replicate n '0') :
    c.isDigit := by
  rw [(List.mem_replicate.mp h).2]
  rfl

theorem isDigits_paddedIn (width n : Nat) : IsDigits (Text.paddedIn 10 width n) := by
  obtain ⟨hne, hdigits⟩ := isDigits_toDigits n
  refine ⟨by simp [Text.paddedIn, hne], ?_⟩
  intro c hc
  rcases List.mem_append.mp hc with hc | hc
  · exact isDigit_of_mem_replicate_zero hc
  · exact hdigits c hc

/-! ## Numbers -/

theorem isNumber_of_sign
    (negative : Bool) {cs : List Char} (h : IsMagnitude cs) :
    IsNumber ((if negative then ['-'] else []) ++ cs) := by
  cases negative with
  | false => exact .positive h
  | true => exact .negative h

theorem IsDigits.isMagnitude {cs : List Char} (h : IsDigits cs) : IsMagnitude cs :=
  ⟨cs, [], [], [], h, .none, .none, Or.inl rfl, by simp⟩

theorem isNumber_ofInt (n : Int) : IsNumber (Text.ofInt n).toList := by
  cases n with
  | ofNat n =>
      simpa [Text.ofInt] using IsNumber.positive (isDigits_toDigits n).isMagnitude
  | negSucc n =>
      simpa [Text.ofInt] using IsNumber.negative (isDigits_toDigits (n + 1)).isMagnitude

/-! ## Doubles -/

namespace Binary64

/-- Only zero is read from a coefficient of zero. -/
theorem rank_eq_zero_of_ofDecimal_zero
    {power : Int} {rank : Fin magnitudeCount}
    (h : ofDecimal false 0 power = .finite false rank) : rank.val = 0 := by
  simp only [ofDecimal, ofRank, decide_true, Bool.true_or, if_true] at h
  split at h
  · cases h
    rfl
  · cases h

theorem ne_zero_of_decimalNear?
    {rank : Fin magnitudeCount} {power : Int} {c : Nat} (hrank : rank.val ≠ 0)
    (h : decimalNear? rank power = some c) : c ≠ 0 := by
  have hback : ofDecimal false c power = .finite false rank := by
    unfold decimalNear? at h
    extract_lets n d readsBack nearest other at h
    split at h
    · next hread =>
        obtain rfl := Option.some.inj h
        exact eq_of_beq hread
    · split at h
      · next hread =>
          obtain rfl := Option.some.inj h
          exact eq_of_beq hread
      · cases h
  rintro rfl
  exact hrank (rank_eq_zero_of_ofDecimal_zero hback)

/-- The shortest digits of a magnitude other than zero are not zero, if there are any. -/
theorem shortest_cases (rank : Fin magnitudeCount) (hrank : rank.val ≠ 0) :
    (shortest rank).1 ≠ 0 ∨ shortest rank = (0, 0) := by
  unfold shortest
  dsimp only
  cases h : List.findSome? (fun power => (decimalNear? rank power).map (·, power))
      ((List.range 17).map fun (places : Nat) =>
        ratioLog10 (numerator rank) (denominator rank) - places) with
  | none => exact Or.inr rfl
  | some found =>
      obtain ⟨power, -, hpower⟩ := List.exists_of_findSome?_eq_some h
      obtain ⟨c, hc, rfl⟩ := Option.map_eq_some_iff.mp hpower
      exact Or.inl (ne_zero_of_decimalNear? hrank hc)

theorem isDigit_of_mem_significantDigits
    {n : Nat} {c : Char} (h : c ∈ significantDigits n) : c.isDigit := by
  rw [significantDigits, List.mem_reverse] at h
  have hmem := (List.dropWhile_sublist (· = '0')).subset h
  exact (isDigits_toDigits n).2 c (List.mem_reverse.mp hmem)

theorem significantDigits_ne_nil {n : Nat} (hn : n ≠ 0) : significantDigits n ≠ [] := by
  intro h
  rw [significantDigits, List.reverse_eq_nil_iff, List.dropWhile_eq_nil_iff] at h
  have hzeros : Nat.toDigits 10 n = List.replicate (Nat.toDigits 10 n).length '0' := by
    rw [List.eq_replicate_iff]
    exact ⟨rfl, fun c hc => by simpa using h c (List.mem_reverse.mpr hc)⟩
  apply hn
  calc
    n = Nat.ofDigitChars 10 (Nat.toDigits 10 n) 0 := Nat.ofDigitChars_ten_toDigits.symm
    _ = Nat.ofDigitChars 10 (List.replicate (Nat.toDigits 10 n).length '0') 0 := by
      rw [← hzeros]
    _ = 0 := by rw [Nat.ofDigitChars_replicate_zero, Nat.mul_zero]

/-- A positional text has digits on both sides of its point. -/
theorem positional_eq
    {ds : List Char} {point : Int} (hds : ∀ c ∈ ds, c.isDigit) (h : ds ≠ [] ∨ 0 < point) :
    ∃ whole fraction, IsDigits whole ∧ IsDigits fraction ∧
      positional ds point = whole ++ '.' :: fraction := by
  have hzero : IsDigits ['0'] := ⟨by simp, by simp⟩
  unfold positional
  split
  · next hpoint =>
      have hne : ds ≠ [] := h.resolve_right (by omega)
      refine ⟨['0'], List.replicate (-point).toNat '0' ++ ds, hzero, ⟨by simp [hne], ?_⟩, rfl⟩
      intro c hc
      rcases List.mem_append.mp hc with hc | hc
      · exact isDigit_of_mem_replicate_zero hc
      · exact hds c hc
  · next hpoint =>
      split
      · next hlength =>
          refine ⟨ds ++ List.replicate (point.toNat - ds.length) '0', ['0'], ⟨?_, ?_⟩, hzero, rfl⟩
          · intro hnil
            have hlen := congrArg List.length hnil
            simp only [List.length_append, List.length_replicate, List.length_nil] at hlen
            omega
          · intro c hc
            rcases List.mem_append.mp hc with hc | hc
            · exact hds c hc
            · exact isDigit_of_mem_replicate_zero hc
      · next hlength =>
          refine ⟨ds.take point.toNat, ds.drop point.toNat, ⟨?_, ?_⟩, ⟨?_, ?_⟩, rfl⟩
          · apply List.ne_nil_of_length_pos
            rw [List.length_take]
            omega
          · exact fun c hc => hds c (List.mem_of_mem_take hc)
          · apply List.ne_nil_of_length_pos
            rw [List.length_drop]
            omega
          · exact fun c hc => hds c (List.mem_of_mem_drop hc)

/-- A scientific text has one digit, a fraction if there are more, and a power. -/
theorem scientific_eq
    {ds : List Char} (power : Int) (hds : ∀ c ∈ ds, c.isDigit) (hne : ds ≠ []) :
    ∃ whole fraction sign digits, IsDigits whole ∧
      (fraction = [] ∨ ∃ fs, IsDigits fs ∧ fraction = '.' :: fs) ∧
      (sign = '+' ∨ sign = '-') ∧ IsDigits digits ∧
      scientific ds power = whole ++ fraction ++ 'e' :: sign :: digits := by
  obtain ⟨d, ds, rfl⟩ := List.exists_cons_of_ne_nil hne
  refine ⟨[d], if ds.isEmpty then [] else '.' :: ds, if power < 0 then '-' else '+',
    Text.paddedIn 10 2 power.natAbs, ⟨by simp, by simpa using hds d (by simp)⟩, ?_, ?_,
    isDigits_paddedIn 2 _, rfl⟩
  · cases ds with
    | nil => exact Or.inl rfl
    | cons e es =>
        exact Or.inr ⟨e :: es, ⟨by simp, fun c hc => hds c (by simp [hc])⟩, rfl⟩
  · split
    · exact Or.inr rfl
    · exact Or.inl rfl

end Binary64

/-- A capital exponent mark. -/
theorem map_mark_of_isDigit
    {cs : List Char} (h : ∀ c ∈ cs, c.isDigit) :
    (cs.map fun c => if c = 'e' then 'E' else c) = cs := by
  calc
    (cs.map fun c => if c = 'e' then 'E' else c) = cs.map id := by
      apply List.map_congr_left
      intro c hc
      have hne : c ≠ 'e' := by
        rintro rfl
        exact absurd (h 'e' hc) (by decide)
      rw [if_neg hne, id]
    _ = cs := List.map_id cs

theorem isMagnitude_positional
    {ds : List Char} {point : Int} (hds : ∀ c ∈ ds, c.isDigit) (h : ds ≠ [] ∨ 0 < point) :
    IsMagnitude ((Binary64.positional ds point).map fun c => if c = 'e' then 'E' else c) := by
  obtain ⟨whole, fraction, hwhole, hfraction, heq⟩ := Binary64.positional_eq hds h
  refine ⟨whole, '.' :: fraction, [], [], hwhole, .some hfraction, .none, Or.inl rfl, ?_⟩
  rw [heq, List.map_append, List.map_cons, map_mark_of_isDigit hwhole.2,
    map_mark_of_isDigit hfraction.2]
  simp

theorem isMagnitude_scientific
    {ds : List Char} {power : Int} (hds : ∀ c ∈ ds, c.isDigit) (hne : ds ≠ []) :
    IsMagnitude ((Binary64.scientific ds power).map fun c => if c = 'e' then 'E' else c) := by
  obtain ⟨whole, fraction, sign, digits, hwhole, hfraction, hsign, hdigits, heq⟩ :=
    Binary64.scientific_eq power hds hne
  have hmap : (fraction.map fun c => if c = 'e' then 'E' else c) = fraction := by
    rcases hfraction with rfl | ⟨fs, hfs, rfl⟩
    · rfl
    · rw [List.map_cons, map_mark_of_isDigit hfs.2]
      rfl
  refine ⟨whole, fraction, 'E' :: sign :: digits, [], hwhole, ?_, ?_, Or.inl rfl, ?_⟩
  · rcases hfraction with rfl | ⟨fs, hfs, rfl⟩
    · exact .none
    · exact .some hfs
  · rcases hsign with rfl | rfl
    · exact .plus hdigits
    · exact .minus hdigits
  · have hmark : (if sign = 'e' then 'E' else sign) = sign := by
      rcases hsign with rfl | rfl <;> rfl
    rw [heq, List.map_append, List.map_append, List.map_cons, List.map_cons,
      map_mark_of_isDigit hwhole.2, hmap, map_mark_of_isDigit hdigits.2, hmark]
    simp

theorem isMagnitude_magnitudeChars (rank : Fin magnitudeCount) :
    IsMagnitude ((Binary64.magnitudeChars rank).map fun c => if c = 'e' then 'E' else c) := by
  unfold Binary64.magnitudeChars
  split
  · have hzero : IsDigits ['0'] := ⟨by simp, by simp⟩
    exact ⟨['0'], ['.', '0'], [], [], hzero, .some hzero, .none, Or.inl rfl, rfl⟩
  · next hrank =>
      have hds {n : Nat} : ∀ c ∈ Binary64.significantDigits n, c.isDigit :=
        fun c hc => Binary64.isDigit_of_mem_significantDigits hc
      rcases Binary64.shortest_cases rank hrank with hne | hzero
      · dsimp only
        have hdigits := Binary64.significantDigits_ne_nil hne
        split
        · exact isMagnitude_positional hds (Or.inl hdigits)
        · exact isMagnitude_scientific hds hdigits
      · rw [hzero]
        dsimp only
        rw [if_pos (by decide)]
        exact isMagnitude_positional hds (Or.inr (by decide))

theorem isNumber_floatText (negative : Bool) (rank : Fin magnitudeCount) :
    IsNumber (Literal.floatText negative rank).toList := by
  have h := isNumber_of_sign negative (isMagnitude_magnitudeChars rank)
  cases negative with
  | false => simpa [Literal.floatText, Binary64.toText] using h
  | true => simpa [Literal.floatText, Binary64.toText] using h

/-! ## Decimals -/

theorem isDigits_wholeDigits (coefficient : Nat) (point : Int) :
    IsDigits (if point ≤ 0 then ['0'] else (Nat.toDigits 10 coefficient).take point.toNat) := by
  obtain ⟨hne, hdigits⟩ := isDigits_toDigits coefficient
  split
  · exact ⟨by simp, by simp⟩
  · next hpoint =>
      refine ⟨?_, fun c hc => hdigits c (List.mem_of_mem_take hc)⟩
      have hpos : point.toNat ≠ 0 := by omega
      simp [hne, hpos]

theorem isDigit_of_mem_fractionDigits
    {coefficient : Nat} {point : Int} {c : Char}
    (hc : c ∈ if point ≤ 0 then
        List.replicate (-point).toNat '0' ++ Nat.toDigits 10 coefficient
      else (Nat.toDigits 10 coefficient).drop point.toNat) :
    c.isDigit := by
  have hdigits := (isDigits_toDigits coefficient).2
  split at hc
  · rcases List.mem_append.mp hc with hc | hc
    · exact isDigit_of_mem_replicate_zero hc
    · exact hdigits c hc
  · exact hdigits c (List.mem_of_mem_drop hc)

/-- The digits are those of the coefficient, wherever the point is. -/
theorem ofDigitChars_pointed (coefficient : Nat) (point : Int) :
    Nat.ofDigitChars 10
      ((if point ≤ 0 then ['0'] else (Nat.toDigits 10 coefficient).take point.toNat) ++
        if point ≤ 0 then List.replicate (-point).toNat '0' ++ Nat.toDigits 10 coefficient
        else (Nat.toDigits 10 coefficient).drop point.toNat) 0 = coefficient := by
  by_cases hpoint : point ≤ 0
  · have hzero : ['0'] = List.replicate 1 '0' := rfl
    rw [if_pos hpoint, if_pos hpoint, hzero, Nat.ofDigitChars_append, Nat.ofDigitChars_append,
      Nat.ofDigitChars_replicate_zero, Nat.ofDigitChars_replicate_zero, Nat.mul_zero,
      Nat.ofDigitChars_ten_toDigits]
  · rw [if_neg hpoint, if_neg hpoint, List.take_append_drop, Nat.ofDigitChars_ten_toDigits]

/-- A point and the digits behind it, if there are any. -/
def fractionChars (fraction : List Char) : List Char :=
  if fraction.isEmpty then [] else '.' :: fraction

/-- A signed power of ten, if it is not zero. -/
def powerChars (power : Int) : List Char :=
  if power = 0 then []
  else 'E' :: (if power < 0 then '-' else '+') :: Nat.toDigits 10 power.natAbs

theorem isFraction_fractionChars {ds : List Char} (h : ∀ c ∈ ds, c.isDigit) :
    IsFraction (fractionChars ds) := by
  cases ds with
  | nil => exact .none
  | cons d ds => exact .some ⟨by simp, h⟩

theorem isPower_powerChars (power : Int) : IsPower (powerChars power) := by
  have hdigits := isDigits_toDigits power.natAbs
  unfold powerChars
  split
  · exact .none
  · split
    · exact .minus hdigits
    · exact .plus hdigits

theorem toList_powerText (power : Int) :
    (if power = 0 then "" else
      "E" ++ (if power < 0 then "-" else "+") ++ power.natAbs.repr).toList = powerChars power := by
  unfold powerChars
  split
  · rfl
  · split
    · simp
    · simp

/-- The text of a magnitude has its digits, and the point where the exponent puts it. -/
theorem magnitudeText_parts (coefficient : Nat) (exponent : Int) :
    ∃ whole fraction power, IsDigits whole ∧ (∀ c ∈ fraction, c.isDigit) ∧
      Nat.ofDigitChars 10 (whole ++ fraction) 0 = coefficient ∧
      power - fraction.length = exponent ∧
      (Decimal.magnitudeText coefficient exponent).toList =
        whole ++ fractionChars fraction ++ powerChars power := by
  unfold Decimal.magnitudeText
  extract_lets ds left point whole fraction power
  refine ⟨whole, fraction, power, isDigits_wholeDigits coefficient point,
    fun c (hc : c ∈ fraction) => isDigit_of_mem_fractionDigits hc,
    ofDigitChars_pointed coefficient point, ?_, ?_⟩
  · have hlength : 0 < ds.length := Nat.length_toDigits_pos
    have hleft : left = ds.length + exponent := rfl
    have hpower : power = left - point := rfl
    have hcases : point = left ∧ exponent ≤ 0 ∨ point = 1 := by
      by_cases hplain : exponent ≤ 0 && -6 < left
      · exact Or.inl ⟨if_pos hplain, of_decide_eq_true (Bool.and_eq_true_iff.mp hplain).1⟩
      · exact Or.inr (if_neg hplain)
    by_cases hpoint : point ≤ 0
    · have hfraction : fraction = List.replicate (-point).toNat '0' ++ ds := if_pos hpoint
      rw [hfraction, List.length_append, List.length_replicate]
      omega
    · have hfraction : fraction = ds.drop point.toNat := if_neg hpoint
      rw [hfraction, List.length_drop]
      clear_value ds left point power
      omega
  · rw [String.toList_append, String.toList_ofList, toList_powerText]
    rfl

theorem isMagnitude_magnitudeText (coefficient : Nat) (exponent : Int) :
    IsMagnitude ((Decimal.magnitudeText coefficient exponent).toList ++ ['M']) := by
  obtain ⟨whole, fraction, power, hwhole, hfraction, -, -, htext⟩ :=
    magnitudeText_parts coefficient exponent
  refine ⟨whole, fractionChars fraction, powerChars power, ['M'], hwhole,
    isFraction_fractionChars hfraction, isPower_powerChars power, Or.inr rfl, ?_⟩
  rw [htext]

theorem isNumber_decimal (negative : Bool) (coefficient : Nat) (exponent : Int) :
    IsNumber ((Decimal.finite negative coefficient exponent).toText ++ "M").toList := by
  have h := isNumber_of_sign negative (isMagnitude_magnitudeText coefficient exponent)
  cases negative with
  | false => simpa [Decimal.toText, Decimal.signText] using h
  | true => simpa [Decimal.toText, Decimal.signText] using h

/-! ## Quoted texts -/

theorem quotesDoubled_doubleQuotes (cs : List Char) : QuotesDoubled (Literal.doubleQuotes cs) := by
  induction cs with
  | nil => exact .nil
  | cons c rest ih =>
      unfold Literal.doubleQuotes
      split
      · exact .quote ih
      · next hc => exact .char hc ih

/-! ## Casts -/

theorem IsPlain.append {cs ds : List Char} (hc : IsPlain cs) (hd : IsPlain ds) :
    IsPlain (cs ++ ds) :=
  List.forall_mem_append.mpr ⟨hc, hd⟩

theorem isPlain_padded (width n : Nat) : IsPlain (Text.padded width n).toList := by
  intro c hc
  have hdigit : c.isDigit := (isDigits_paddedIn width n).2 c (by simpa [Text.padded] using hc)
  simp [isPlainChar, Char.isAlphanum, hdigit]

theorem isPlain_date (width : Nat) (d : Date) : IsPlain (d.text width).toList := by
  have hdash : IsPlain "-".toList := by decide
  rw [Date.text]
  simp only [String.toList_append]
  exact ((((isPlain_padded width _).append hdash).append (isPlain_padded 2 _)).append
    hdash).append (isPlain_padded 2 _)

theorem isPlain_clock (c : Clock) : IsPlain c.toText.toList := by
  have hcolon : IsPlain ":".toList := by decide
  rw [Clock.toText]
  simp only [String.toList_append]
  exact ((((isPlain_padded 2 _).append hcolon).append (isPlain_padded 2 _)).append
    hcolon).append (isPlain_padded 2 _)

theorem isPlain_instantText (d : Date) (c : Clock) :
    IsPlain (Literal.instantText d c).toList := by
  rw [Literal.instantText, Clock.millisecondText]
  simp only [String.toList_append]
  exact (((((isPlain_date 1 d).append (by decide)).append (isPlain_clock c)).append
    (by decide)).append (isPlain_padded 3 _)).append (by decide)

theorem isPlain_timeText (c : Clock) : IsPlain (Literal.timeText c).toList := by
  rw [Literal.timeText, String.toList_append]
  refine (isPlain_clock c).append ?_
  split
  · decide
  · rw [String.toList_append, Clock.millisecondText]
    exact IsPlain.append (by decide) (isPlain_padded 3 _)

theorem isPlain_toDigits_sixteen (n : Nat) : IsPlain (Nat.toDigits 16 n) := by
  have hdigit : ∀ d < 16, isPlainChar d.digitChar := by decide
  induction n using Nat.strongRecOn with
  | ind n ih =>
      by_cases hn : n < 16
      · rw [Nat.toDigits_of_lt_base hn]
        intro c hc
        rw [List.mem_singleton.mp hc]
        exact hdigit n hn
      · rw [Nat.toDigits_of_base_le (by decide) (by omega)]
        apply (ih (n / 16) (by omega)).append
        intro c hc
        rw [List.mem_singleton.mp hc]
        exact hdigit (n % 16) (Nat.mod_lt n (by decide))

theorem isPlain_uuid (u : Uuid) : IsPlain (Uuid.toText u).toList := by
  have hdigits : IsPlain (Text.paddedIn 16 32 u.toNat) := by
    refine IsPlain.append ?_ (isPlain_toDigits_sixteen _)
    intro c hc
    rw [(List.mem_replicate.mp hc).2]
    rfl
  have hgroup (start count : Nat) :
      IsPlain (((Text.paddedIn 16 32 u.toNat).drop start).take count) :=
    fun c hc => hdigits c (List.mem_of_mem_drop (List.mem_of_mem_take hc))
  have hdash : IsPlain "-".toList := by decide
  rw [Uuid.toText, String.toList_intercalate]
  apply forall_mem_intercalate hdash
  simp only [List.map_cons, List.map_nil, String.toList_ofList, List.forall_mem_cons]
  exact ⟨hgroup 0 8, hgroup 8 4, hgroup 12 4, hgroup 16 4, hgroup 20 12, by simp⟩

theorem isLiteral_cast
    {plain type : String} (hplain : IsPlain plain.toList) (htype : type.toList.all Char.isAlpha) :
    IsLiteral (Literal.cast plain type).toList := by
  have hshape : (Literal.cast plain type).toList =
      "cast(".toList ++ (plain.toList ++ ",Edm.".toList ++ type.toList) ++ [')'] := by
    simp [Literal.cast]
  rw [hshape]
  exact .cast hplain (List.all_eq_true.mp htype)

/-! ## All literals -/

/-- Every literal is written as a literal of the grammar. -/
theorem Literal.isLiteral_toText (l : Literal) : IsLiteral l.toText.toList := by
  cases l with
  | null => exact .word (by decide)
  | bool b => cases b <;> exact .word (by decide)
  | int n => exact .number (isNumber_ofInt n)
  | float negative rank => exact .number (isNumber_floatText negative rank)
  | decimal negative coefficient exponent =>
      exact .number (isNumber_decimal negative coefficient exponent)
  | text s =>
      simpa [Literal.toText, Literal.quote] using
        IsLiteral.text (quotesDoubled_doubleQuotes s.toList)
  | uuid u => exact isLiteral_cast (isPlain_uuid u) (by decide)
  | instant d c => exact isLiteral_cast (isPlain_instantText d c) (by decide)
  | date d => exact isLiteral_cast (isPlain_date 4 d) (by decide)
  | time c => exact isLiteral_cast (isPlain_timeText c) (by decide)

end PagedTables
