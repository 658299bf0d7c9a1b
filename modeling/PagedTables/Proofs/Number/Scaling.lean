import PagedTables.Proofs.Number.Precision

/-!
# Doubles times powers of two

A finite double that is multiplied by a power of two keeps its significand, and only the power that
goes with it grows. So the product is exact, unless it reaches the first power of two beyond the
finite doubles. From there on it is infinite.
-/
namespace PagedTables

namespace Binary64

/-- The first power of two beyond the finite doubles. -/
def bound : ℚ :=
  2 ^ 1024

theorem bound_pos : 0 < bound :=
  pow_pos (by norm_num) 1024

/-- How many magnitudes there are between two powers of two. -/
theorem placeSize_eq : Nat.pow 2 52 = 4503599627370496 := rfl

/-! ## Magnitudes by place -/

/-- The rank of a whole number of units of a place; the places are counted from the lowest one. -/
theorem significand_place {a m : ℕ} (hm : m < 2 * Nat.pow 2 52)
    (ha : a = 0 ∨ Nat.pow 2 52 ≤ m) :
    significand (a * Nat.pow 2 52 + m) = m ∧
      exponent (a * Nat.pow 2 52 + m) = (a : ℤ) - 1074 := by
  rw [significand, exponent, placeSize_eq] at *
  by_cases hsubnormal : m < 4503599627370496
  · obtain rfl : a = 0 := by omega
    rw [if_pos (by omega), if_pos (by omega)]
    omega
  · rw [if_neg (by omega), if_neg (by omega)]
    omega

theorem significand_lt (rank : ℕ) : significand rank < 2 * Nat.pow 2 52 := by
  rw [significand, placeSize_eq]
  split <;> omega

theorem le_exponent (rank : ℕ) : -1074 ≤ exponent rank := by
  rw [exponent, placeSize_eq]
  split <;> omega

/-- Below the range of the finite doubles a magnitude is what its parts denote. -/
theorem toRat?_ofRank (negative : Bool) {a m : ℕ} (hm : m < 2 * Nat.pow 2 52)
    (ha : a = 0 ∨ Nat.pow 2 52 ≤ m) (hrange : a * Nat.pow 2 52 + m < magnitudeCount) :
    (ofRank negative (a * Nat.pow 2 52 + m)).toRat? =
      some (signFactor negative * (m * 2 ^ ((a : ℤ) - 1074))) := by
  obtain ⟨hsignificand, hexponent⟩ := significand_place hm ha
  rw [ofRank, dif_pos hrange, toRat?]
  dsimp only
  rw [hsignificand, hexponent]

/-- The finite doubles end below the power of two that has the next place. -/
theorem lt_magnitudeCount_iff {a m : ℕ} (hm : m < 2 * Nat.pow 2 52)
    (ha : a = 0 ∨ Nat.pow 2 52 ≤ m) :
    a * Nat.pow 2 52 + m < magnitudeCount ↔ (m : ℚ) * 2 ^ ((a : ℤ) - 1074) < bound := by
  have hplace : (0 : ℚ) < 2 ^ ((a : ℤ) - 1074) := zpow_pos (by norm_num) _
  have hone : (1 : ℚ) < 2 := by norm_num
  rw [magnitudeCount]
  by_cases hlow : a < 2046
  · refine iff_of_true ?_ ?_
    · rw [placeSize_eq] at *
      omega
    · calc
        (m : ℚ) * 2 ^ ((a : ℤ) - 1074) < 2 ^ (53 : ℤ) * 2 ^ ((a : ℤ) - 1074) := by
          refine mul_lt_mul_of_pos_right ?_ hplace
          rw [placeSize_eq] at hm
          exact_mod_cast hm
        _ = 2 ^ (53 + ((a : ℤ) - 1074)) := (zpow_add₀ (by norm_num) _ _).symm
        _ ≤ 2 ^ (1024 : ℤ) := zpow_le_zpow_right₀ hone.le (by omega)
        _ = bound := zpow_natCast 2 1024
  · have hfull : Nat.pow 2 52 ≤ m := ha.resolve_left (by omega)
    refine iff_of_false ?_ (not_lt.mpr ?_)
    · rw [placeSize_eq] at *
      omega
    · calc
        bound = 2 ^ (1024 : ℤ) := (zpow_natCast 2 1024).symm
        _ ≤ 2 ^ (52 + ((a : ℤ) - 1074)) := zpow_le_zpow_right₀ hone.le (by omega)
        _ = 2 ^ (52 : ℤ) * 2 ^ ((a : ℤ) - 1074) := zpow_add₀ (by norm_num) _ _
        _ ≤ m * 2 ^ ((a : ℤ) - 1074) := by
          refine mul_le_mul_of_nonneg_right ?_ hplace.le
          rw [placeSize_eq] at hfull
          exact_mod_cast hfull

/-! ## Products -/

/-- A number with a factor of two more has one place more. -/
theorem log2_mul_pow {m : ℕ} (hm : m ≠ 0) (j : ℕ) : (m * 2 ^ j).log2 = m.log2 + j := by
  rw [Nat.log2_eq_iff (Nat.mul_ne_zero hm (Nat.two_pow_pos j).ne'), Nat.pow_add,
    Nat.add_right_comm, Nat.pow_add]
  exact ⟨Nat.mul_le_mul_right _ (Nat.log2_self_le hm),
    Nat.mul_lt_mul_of_pos_right Nat.lt_log2_self (Nat.two_pow_pos j)⟩

/-- The binary logarithm of a multiple of a power of two is found without a correction. -/
theorem ratioLog2_mul_pow {m : ℕ} (hm : m ≠ 0) (i j : ℕ) :
    ratioLog2 (m * 2 ^ i) (2 ^ j) = (m.log2 : ℤ) + i - j := by
  rw [ratioLog2, log2_mul_pow hm, Nat.log2_two_pow, if_neg, Nat.cast_add]
  rw [not_lt]
  change 2 ^ j * 2 ^ _ ≤ m * 2 ^ i * 2 ^ _
  rw [← Nat.pow_add, mul_assoc, ← Nat.pow_add]
  calc
    2 ^ (j + (((m.log2 + i : ℕ) : ℤ) - j).toNat) =
        2 ^ m.log2 * 2 ^ (i + (-(((m.log2 + i : ℕ) : ℤ) - j)).toNat) := by
      rw [← Nat.pow_add]
      congr 1
      omega
    _ ≤ m * 2 ^ (i + (-(((m.log2 + i : ℕ) : ℤ) - j)).toNat) :=
      Nat.mul_le_mul_right _ (Nat.log2_self_le hm)

/-- A power of two that is given in a lower place is a whole number of its units. -/
theorem roundHalfEven_place (s : ℕ) {e u : ℤ} {k j : ℕ} (h : e + k = u + j) :
    roundHalfEven (s * 2 ^ (e.toNat + k) * Nat.pow 2 (-u).toNat)
      (2 ^ (-e).toNat * Nat.pow 2 u.toNat) = s * 2 ^ j := by
  have hproduct : s * 2 ^ (e.toNat + k) * Nat.pow 2 (-u).toNat =
      s * 2 ^ j * (2 ^ (-e).toNat * Nat.pow 2 u.toNat) := by
    change s * 2 ^ (e.toNat + k) * 2 ^ (-u).toNat =
      s * 2 ^ j * (2 ^ (-e).toNat * 2 ^ u.toNat)
    rw [mul_assoc, mul_assoc, ← pow_add, ← pow_add, ← pow_add]
    congr 2
    omega
  rw [hproduct]
  exact roundHalfEven_mul_right _ _ (Nat.mul_pos (Nat.two_pow_pos _) (Nat.two_pow_pos _))

/-- The parts of a product: its significand is whole in the place that it is rounded to. -/
theorem scale_eq_ofRank (negative : Bool) (rank : Fin magnitudeCount) (k : ℕ) :
    ∃ a m : ℕ, m < 2 * Nat.pow 2 52 ∧ (a = 0 ∨ Nat.pow 2 52 ≤ m) ∧
      (m : ℚ) * 2 ^ ((a : ℤ) - 1074) = significand rank * 2 ^ exponent rank * 2 ^ k ∧
      (finite negative rank).scale k = ofRank negative (a * Nat.pow 2 52 + m) := by
  generalize hs : significand rank = s
  generalize he : exponent rank = e
  have hlow : -1074 ≤ e := he ▸ le_exponent rank
  have hlt : s < 2 * Nat.pow 2 52 := hs ▸ significand_lt rank
  have hnumerator : numerator rank * Nat.pow 2 k = s * 2 ^ (e.toNat + k) := by
    rw [numerator, hs, he, Nat.pow_add, ← mul_assoc]
    rfl
  have hdenominator : denominator rank = 2 ^ (-e).toNat := by
    rw [denominator, he]
    rfl
  rw [scale, times, hnumerator, hdenominator, ofRatio]
  by_cases hzero : s = 0
  · refine ⟨0, 0, by decide, Or.inl rfl, ?_, ?_⟩
    · rw [hzero, Nat.cast_zero, zero_mul, zero_mul, zero_mul]
    · rw [hzero, zero_mul, if_pos rfl]
  · have hlog : s.log2 ≤ 52 := by
      rw [placeSize_eq] at hlt
      have : s.log2 < 53 := (Nat.log2_lt hzero).mpr (by omega)
      omega
    rw [if_neg (Nat.mul_ne_zero hzero (Nat.two_pow_pos _).ne'), ratioLog2_mul_pow hzero]
    generalize hunit :
      max ((s.log2 : ℤ) + ((e.toNat + k : ℕ) : ℤ) - ((-e).toNat : ℤ) - 52) (-1074) = u
    obtain ⟨j, hj⟩ : ∃ j : ℕ, e + k = u + j := ⟨(e + k - u).toNat, by omega⟩
    have hne : s * 2 ^ j ≠ 0 := Nat.mul_ne_zero hzero (Nat.two_pow_pos j).ne'
    refine ⟨(u + 1074).toNat, s * 2 ^ j, ?_, ?_, ?_, ?_⟩
    · have hfits : (s * 2 ^ j).log2 < 53 := by
        rw [log2_mul_pow hzero]
        omega
      exact (Nat.log2_lt hne).mp hfits
    · by_cases hlowest : u = -1074
      · exact Or.inl (by omega)
      · right
        have hfull : 52 ≤ (s * 2 ^ j).log2 := by
          rw [log2_mul_pow hzero]
          omega
        exact (Nat.le_log2 hne).mp hfull
    · have hu : (((u + 1074).toNat : ℕ) : ℤ) - 1074 = u := by omega
      rw [hu, Nat.cast_mul, Nat.cast_pow, Nat.cast_ofNat, mul_assoc, mul_assoc, ← zpow_natCast,
        ← zpow_natCast, ← zpow_add₀ (by norm_num), ← zpow_add₀ (by norm_num), hj, add_comm]
    · dsimp only
      rw [roundHalfEven_place s hj]

/--
A product is exact as long as it is below the first power of two that is no double, and infinite
from there on.
-/
theorem scale_spec {x : Binary64} {q : ℚ} (hx : x.toRat? = some q) (k : ℕ) :
    (|q| * 2 ^ k < bound → (x.scale k).toRat? = some (q * 2 ^ k)) ∧
      (bound ≤ |q| * 2 ^ k → x.scale k = infinite (q < 0)) := by
  cases x with
  | nan origin => cases hx
  | infinite negative => cases hx
  | finite negative rank =>
      obtain rfl := Option.some.inj hx
      obtain ⟨a, m, hm, ha, hproduct, hscale⟩ := scale_eq_ofRank negative rank k
      rw [abs_signed negative _ (by norm_num), ← hproduct, ← lt_magnitudeCount_iff hm ha, ← not_lt,
        ← lt_magnitudeCount_iff hm ha, hscale]
      constructor
      · intro hrange
        rw [toRat?_ofRank negative hm ha hrange, hproduct, ← mul_assoc]
      · intro hrange
        rw [ofRank, dif_neg hrange]
        -- A magnitude beyond the range is not zero, so that its sign shows.
        have hpos : (0 : ℚ) < significand rank * 2 ^ exponent rank := by
          have hlarge := not_lt.mp (mt (lt_magnitudeCount_iff hm ha).mpr hrange)
          rw [hproduct] at hlarge
          have hpower : (0 : ℚ) < 2 ^ k := pow_pos (by norm_num) k
          exact pos_of_mul_pos_left (bound_pos.trans_le hlarge) hpower.le
        cases negative with
        | false => simpa [signFactor] using hpos.le
        | true => simpa [signFactor] using hpos

end Binary64

end PagedTables
