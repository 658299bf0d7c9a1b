import Mathlib.Algebra.Group.Int.Defs
import Mathlib.Algebra.Group.Nat.Defs
import PagedTables.Text.Digits

/-!
# Texts that spell integers

Which texts are read as integers, and as which ones. White space may stand around a number and a
sign in front of its digits. The digits may be of any script, and an underscore may stand between
two of them. A text with too many digits is not read, and no integer is written with so many.
-/
namespace PagedTables

theorem takeWhile_dropWhile_append
    (p : Char → Bool) (cs rest : List Char) (hcs : ∀ c ∈ cs, p c)
    (hrest : ∀ c ∈ rest.head?, p c = false) :
    (cs ++ rest).takeWhile p = cs ∧ (cs ++ rest).dropWhile p = rest := by
  have hstop : rest.takeWhile p = [] ∧ rest.dropWhile p = rest := by
    cases rest with
    | nil => simp
    | cons c rest => simp [hrest c (by simp)]
  rw [List.takeWhile_append_of_pos hcs, List.dropWhile_append_of_pos hcs, hstop.1, hstop.2,
    List.append_nil]
  exact ⟨rfl, rfl⟩

namespace Text

/-- Digits with an underscore between some of them, and the digits alone. -/
inductive IsNumeral : List Char → List Char → Prop
  | digit {c : Char} (hc : c.isDigit = true) : IsNumeral [c] [c]
  | next {c : Char} {cs ds : List Char} (hc : c.isDigit = true) (h : IsNumeral cs ds) :
      IsNumeral (c :: cs) (c :: ds)
  | apart {c : Char} {cs ds : List Char} (hc : c.isDigit = true) (h : IsNumeral cs ds) :
      IsNumeral (c :: '_' :: cs) (c :: ds)

/-- A sign in front of a number, which is negative or not. -/
inductive IsSign : Bool → List Char → Prop
  | absent : IsSign false []
  | plus : IsSign false ['+']
  | minus : IsSign true ['-']

/-- The integer with the given digits behind a sign. -/
def signed (negative : Bool) (ds : List Char) : Int :=
  if negative then -(Nat.ofDigitChars 10 ds 0 : Int) else Nat.ofDigitChars 10 ds 0

/-- The characters spell an integer, with no more digits than are ever read. -/
inductive SpellInteger : List Char → Int → Prop
  | spelled {before sign numeral after ds : List Char} {negative : Bool}
      (hbefore : ∀ c ∈ before, isWhite c = true) (hsign : IsSign negative sign)
      (hnumeral : IsNumeral numeral ds) (hlength : ds.length ≤ maxIntegerDigits)
      (hafter : ∀ c ∈ after, isWhite c = true) :
      SpellInteger (before ++ (sign ++ (numeral ++ after))) (signed negative ds)

/-- A text spells an integer, its digits being of any script. -/
def SpellsInteger (s : String) (n : Int) : Prop :=
  SpellInteger (s.toList.map asciiDigit) n

/-! ## Numerals -/

/-- The character is a part of numerals. -/
def isNumeralPart (c : Char) : Bool :=
  c.isDigit || c = '_'

section

variable {cs ds : List Char}

theorem IsNumeral.head (h : IsNumeral cs ds) : ∃ c rest, cs = c :: rest ∧ c.isDigit = true := by
  cases h with
  | digit hc => exact ⟨_, _, rfl, hc⟩
  | next hc _ => exact ⟨_, _, rfl, hc⟩
  | apart hc _ => exact ⟨_, _, rfl, hc⟩

theorem IsNumeral.isNumeralPart (h : IsNumeral cs ds) : ∀ c ∈ cs, isNumeralPart c = true := by
  induction h with
  | digit hc => simp [Text.isNumeralPart, hc]
  | next hc _ ih => exact List.forall_mem_cons.mpr ⟨by simp [Text.isNumeralPart, hc], ih⟩
  | apart hc _ ih =>
      refine List.forall_mem_cons.mpr ⟨by simp [Text.isNumeralPart, hc], ?_⟩
      exact List.forall_mem_cons.mpr ⟨rfl, ih⟩

theorem IsNumeral.isDigit (h : IsNumeral cs ds) : ds ≠ [] ∧ ∀ c ∈ ds, c.isDigit = true := by
  induction h with
  | digit hc => exact ⟨by simp, by simpa using hc⟩
  | next hc _ ih => exact ⟨by simp, List.forall_mem_cons.mpr ⟨hc, ih.2⟩⟩
  | apart hc _ ih => exact ⟨by simp, List.forall_mem_cons.mpr ⟨hc, ih.2⟩⟩

theorem ne_underscore_of_isDigit {c : Char} (h : c.isDigit = true) : c ≠ '_' := by
  rintro rfl
  cases h

theorem IsNumeral.dropUnderscores? (h : IsNumeral cs ds) : dropUnderscores? cs = some ds := by
  induction h with
  | digit hc => simp [Text.dropUnderscores?, ne_underscore_of_isDigit hc]
  | @next c cs ds hc h ih =>
      obtain ⟨d, rest, rfl, hd⟩ := h.head
      have hne := ne_underscore_of_isDigit hc
      have hne' := ne_underscore_of_isDigit hd
      rw [Text.dropUnderscores?.eq_4 _ _ (by simpa using hne) (by simpa using hne'), ih]
      rfl
  | @apart c cs ds hc h ih =>
      obtain ⟨d, rest, rfl, hd⟩ := h.head
      have hne := ne_underscore_of_isDigit hc
      rw [Text.dropUnderscores?.eq_3 _ _ (by simpa using hne)]
      simp [hc, hd, ih]

theorem isNumeral_of_dropUnderscores? (hparts : ∀ c ∈ cs, isNumeralPart c = true) (hne : cs ≠ [])
    (h : dropUnderscores? cs = some ds) : IsNumeral cs ds := by
  fun_induction dropUnderscores? cs generalizing ds with
  | case1 => exact absurd rfl hne
  | case2 => cases h
  | case3 c rest hc hdigits ih =>
      obtain ⟨ds, hds, rfl⟩ := Option.map_eq_some_iff.mp h
      obtain ⟨hdigit, hnext⟩ := Bool.and_eq_true_iff.mp hdigits
      have hrest : rest ≠ [] := by
        rintro rfl
        cases hnext
      exact .apart hdigit (ih (fun c hc => hparts c (by simp [hc])) hrest hds)
  | case4 => cases h
  | case5 c rest hc hrest ih =>
      obtain ⟨ds, hds, rfl⟩ := Option.map_eq_some_iff.mp h
      have hdigit : c.isDigit = true := by
        simpa [isNumeralPart, show c ≠ '_' from hc] using hparts c List.mem_cons_self
      by_cases hempty : rest = []
      · subst hempty
        cases hds
        exact .digit hdigit
      · exact .next hdigit (ih (fun c hc => hparts c (List.mem_cons_of_mem _ hc)) hempty hds)

end

/-! ## Integers -/

theorem takeSign_append {negative : Bool} {sign numeral rest ds : List Char}
    (hsign : IsSign negative sign) (hnumeral : IsNumeral numeral ds) :
    takeSign (sign ++ (numeral ++ rest)) = (negative, numeral ++ rest) := by
  obtain ⟨c, cs, rfl, hc⟩ := hnumeral.head
  cases hsign with
  | absent =>
      have hminus : c ≠ '-' := by
        rintro rfl
        cases hc
      have hplus : c ≠ '+' := by
        rintro rfl
        cases hc
      simp [takeSign, hminus, hplus]
  | plus => rfl
  | minus => rfl

theorem isSign_takeSign (cs : List Char) :
    ∃ sign, IsSign (takeSign cs).1 sign ∧ cs = sign ++ (takeSign cs).2 := by
  unfold takeSign
  split
  · exact ⟨['-'], .minus, rfl⟩
  · exact ⟨['+'], .plus, rfl⟩
  · exact ⟨[], .absent, rfl⟩

theorem readNat?_of_isNumeral {cs ds : List Char} (h : IsNumeral cs ds) :
    readNat? ds = some (Nat.ofDigitChars 10 ds 0) := by
  obtain ⟨hne, hdigits⟩ := h.isDigit
  have hall : ds.all Char.isDigit = true := List.all_eq_true.mpr hdigits
  simp [readNat?, hne, hall]

/-- White space is neither a sign nor a part of a numeral. -/
theorem isWhite_eq_false {c : Char} (h : isNumeralPart c = true ∨ c = '+' ∨ c = '-') :
    isWhite c = false := by
  have hcode : c.toNat = 43 ∨ c.toNat = 45 ∨ c.toNat = 95 ∨ 48 ≤ c.toNat ∧ c.toNat ≤ 57 := by
    rcases h with hpart | rfl | rfl
    · rcases Bool.or_eq_true_iff.mp hpart with hdigit | hunderscore
      · exact .inr (.inr (.inr (Char.isDigit_iff_toNat.mp hdigit)))
      · obtain rfl := of_decide_eq_true hunderscore
        exact .inr (.inr (.inl rfl))
    · exact .inl rfl
    · exact .inr (.inl rfl)
  rw [isWhite, Bool.eq_false_iff]
  simp only [ne_eq, Bool.or_eq_true, Bool.and_eq_true, decide_eq_true_eq, beq_iff_eq]
  omega

theorem dropWhile_isWhite_append {before sign numeral rest ds : List Char} {negative : Bool}
    (hbefore : ∀ c ∈ before, isWhite c = true) (hsign : IsSign negative sign)
    (hnumeral : IsNumeral numeral ds) :
    (before ++ (sign ++ (numeral ++ rest))).dropWhile isWhite = sign ++ (numeral ++ rest) := by
  refine (takeWhile_dropWhile_append isWhite before _ hbefore fun c hc => ?_).2
  obtain ⟨first, others, rfl, hfirst⟩ := hnumeral.head
  cases hsign with
  | absent =>
      obtain rfl : first = c := by simpa using hc
      exact isWhite_eq_false (.inl (by simp [isNumeralPart, hfirst]))
  | plus =>
      obtain rfl : '+' = c := by simpa using hc
      exact isWhite_eq_false (.inr (.inl rfl))
  | minus =>
      obtain rfl : '-' = c := by simpa using hc
      exact isWhite_eq_false (.inr (.inr rfl))

/-- An integer is read from what stands behind the sign. -/
theorem readInteger_eq_ok_iff {cs rest : List Char} {negative : Bool} {n : Int}
    (hsign : takeSign (cs.dropWhile isWhite) = (negative, rest)) :
    readInteger isWhite cs = .ok n ↔ ∃ ds m,
      dropUnderscores? (rest.takeWhile isNumeralPart) = some ds ∧ readNat? ds = some m ∧
        ds.length ≤ maxIntegerDigits ∧ (rest.dropWhile isNumeralPart).all isWhite = true ∧
        n = (if negative then -(m : Int) else m) := by
  have hpart : (fun c : Char => c.isDigit || c = '_') = isNumeralPart := rfl
  rw [readInteger, hsign]
  simp only [hpart]
  cases hds : dropUnderscores? (rest.takeWhile isNumeralPart) with
  | none => simp
  | some ds =>
      cases hm : readNat? ds with
      | none => simp [hm]
      | some m =>
          by_cases hlong : maxIntegerDigits < ds.length
          · simp [hm, hlong, Nat.not_le_of_lt hlong]
          · by_cases hafter : (rest.dropWhile isNumeralPart).all isWhite = true
            · simp [hm, hlong, hafter, Nat.le_of_not_lt hlong, eq_comm]
            · simp [hm, hlong, hafter]

theorem readInteger_of_spellInteger {cs : List Char} {n : Int} (h : SpellInteger cs n) :
    readInteger isWhite cs = .ok n := by
  cases h with
  | @spelled before sign numeral after ds negative hbefore hsign hnumeral hlength hafter =>
      have hstop : ∀ c ∈ after.head?, isNumeralPart c = false := fun c hc => by
        have hwhite := hafter c (List.mem_of_mem_head? hc)
        refine Bool.eq_false_iff.mpr fun hpart => ?_
        rw [isWhite_eq_false (.inl hpart)] at hwhite
        cases hwhite
      obtain ⟨htake, hdrop⟩ :=
        takeWhile_dropWhile_append isNumeralPart numeral after hnumeral.isNumeralPart hstop
      have hread : takeSign ((before ++ (sign ++ (numeral ++ after))).dropWhile isWhite) =
          (negative, numeral ++ after) := by
        rw [dropWhile_isWhite_append hbefore hsign hnumeral, takeSign_append hsign hnumeral]
      refine (readInteger_eq_ok_iff hread).mpr
        ⟨ds, _, ?_, readNat?_of_isNumeral hnumeral, hlength, ?_, rfl⟩
      · rw [htake, hnumeral.dropUnderscores?]
      · rw [hdrop]
        exact List.all_eq_true.mpr hafter

theorem spellInteger_of_readInteger {cs : List Char} {n : Int}
    (h : readInteger isWhite cs = .ok n) : SpellInteger cs n := by
  obtain ⟨sign, hsign, hbehind⟩ := isSign_takeSign (cs.dropWhile isWhite)
  rcases htake : takeSign (cs.dropWhile isWhite) with ⟨negative, rest⟩
  rw [htake] at hsign hbehind
  obtain ⟨ds, m, hds, hm, hlength, hafter, rfl⟩ := (readInteger_eq_ok_iff htake).mp h
  have hne : rest.takeWhile isNumeralPart ≠ [] := by
    intro hempty
    rw [hempty] at hds
    cases hds
    cases hm
  have hparts : ∀ c ∈ rest.takeWhile isNumeralPart, isNumeralPart c = true :=
    List.all_eq_true.mp List.all_takeWhile
  have hnumeral := isNumeral_of_dropUnderscores? hparts hne hds
  have hvalue := readNat?_of_isNumeral hnumeral
  rw [hm] at hvalue
  cases hvalue
  have hsplit : cs = cs.takeWhile isWhite ++
      (sign ++ (rest.takeWhile isNumeralPart ++ rest.dropWhile isNumeralPart)) := by
    rw [List.takeWhile_append_dropWhile, ← hbehind, List.takeWhile_append_dropWhile]
  rw [hsplit]
  exact .spelled (List.all_eq_true.mp List.all_takeWhile) hsign hnumeral hlength
    (List.all_eq_true.mp hafter)

/-- A text is read as the integer that it spells. -/
theorem integerOf_eq_ok_iff {s : String} {n : Int} : integerOf s = .ok n ↔ SpellsInteger s n :=
  ⟨spellInteger_of_readInteger, readInteger_of_spellInteger⟩

/-! ## Integers that are written -/

theorem isWritable_iff (n : Int) : isWritable n = true ↔ n.natAbs < 10 ^ maxIntegerDigits := by
  rw [isWritable, decide_eq_true_eq]
  exact Nat.length_toDigits_le_iff (by decide) (by decide)

/-- The least integer of too many digits. -/
theorem isWritable_ten_pow : isWritable (10 ^ maxIntegerDigits) = false := by
  have hten : Int.natAbs 10 = 10 := rfl
  rw [← Bool.not_eq_true, isWritable_iff, Int.natAbs_pow, hten]
  exact Nat.lt_irrefl (10 ^ maxIntegerDigits)

end Text

end PagedTables
