import Mathlib.Algebra.Order.Ring.Abs
import PagedTables.Proofs.Value.Order

/-!
# The working precision of decimals

Decimals are written and compared with all their digits, but arithmetic on them answers with a
number of the working precision. Here that answer is described on rational numbers: it is the
nearest number that has no more digits than the working precision, and of two equally near ones the
one whose last digit is even. So it is exact for the numbers of the working precision and for no
others.

The description holds for every coefficient and every exponent. A result beyond the largest exponent
is signalled, and nothing else is.
-/
namespace PagedTables

/-! ## Nearest whole numbers -/

theorem two_mul_abs_roundHalfEven_le (n : ℕ) {d : ℕ} (hd : 0 < d) :
    2 * |(roundHalfEven n d : ℤ) * d - n| ≤ d := by
  obtain ⟨hhigh, hlow⟩ := roundHalfEven_near n d hd
  rcases abs_cases ((roundHalfEven n d : ℤ) * d - n) with ⟨habs, -⟩ | ⟨habs, -⟩
  · omega
  · omega

/-- Two multiples of `d` are no further apart than `n` is from both. -/
theorem abs_sub_mul_le (j r n : ℤ) (d : ℕ) :
    |j - r| * d ≤ |j * d - n| + |r * d - n| := by
  calc
    |j - r| * d = |(j * d - n) - (r * d - n)| := by
      rw [sub_sub_sub_cancel_right, ← sub_mul, abs_mul, Nat.abs_cast]
    _ ≤ |j * d - n| + |r * d - n| := abs_sub _ _

/-- Of two multiples of `d`, one is at least half of `d` away from `n`. -/
theorem natCast_le_of_ne {j r : ℤ} (hj : j ≠ r) (n : ℤ) (d : ℕ) :
    (d : ℤ) ≤ |j * d - n| + |r * d - n| := by
  have hone : 1 ≤ |j - r| := Int.one_le_abs (sub_ne_zero.mpr hj)
  have hgap : (d : ℤ) ≤ |j - r| * d := le_mul_of_one_le_left (Int.natCast_nonneg d) hone
  exact hgap.trans (abs_sub_mul_le j r n d)

/-- No other multiple of `d` is nearer to `n`. -/
theorem roundHalfEven_nearest (n : ℕ) {d : ℕ} (hd : 0 < d) (j : ℤ) :
    |(roundHalfEven n d : ℤ) * d - n| ≤ |j * d - n| := by
  have hhalf := two_mul_abs_roundHalfEven_le n hd
  by_cases hj : j = roundHalfEven n d
  · rw [hj]
  · have hapart := natCast_le_of_ne hj n d
    linarith

/-- A quotient in the middle of two whole numbers is rounded to the even one. -/
theorem two_dvd_roundHalfEven {n d : ℕ} (hd : 0 < d)
    (hmiddle : 2 * |(roundHalfEven n d : ℤ) * d - n| = d) : 2 ∣ roundHalfEven n d := by
  have hsplit := Nat.div_add_mod n d
  have hlt := Nat.mod_lt n hd
  have hcomm : d * (n / d) = n / d * d := Nat.mul_comm _ _
  have hsucc : (n / d + 1) * d = n / d * d + d := Nat.succ_mul _ _
  have hsides : 2 * (roundHalfEven n d * d) = 2 * n + d ∨
      2 * n = 2 * (roundHalfEven n d * d) + d := by
    rcases abs_cases ((roundHalfEven n d : ℤ) * d - n) with ⟨habs, -⟩ | ⟨habs, -⟩
    · left
      omega
    · right
      omega
  revert hsides
  unfold roundHalfEven
  dsimp only
  split
  · omega
  · split
    · omega
    · split
      · omega
      · omega

/-- Where another multiple of `d` is as near, it is the next one, and the chosen one is even. -/
theorem roundHalfEven_tie {n d : ℕ} (hd : 0 < d) {j : ℤ} (hj : j ≠ roundHalfEven n d)
    (htie : |j * d - n| = |(roundHalfEven n d : ℤ) * d - n|) :
    |j - roundHalfEven n d| = 1 ∧ 2 ∣ roundHalfEven n d := by
  have hhalf := two_mul_abs_roundHalfEven_le n hd
  have hapart := natCast_le_of_ne hj n d
  have hpos : (0 : ℤ) < d := Int.natCast_pos.mpr hd
  constructor
  · refine le_antisymm ?_ (Int.one_le_abs (sub_ne_zero.mpr hj))
    have hgap := abs_sub_mul_le j (roundHalfEven n d) n d
    refine le_of_mul_le_mul_right ?_ hpos
    linarith
  · apply two_dvd_roundHalfEven hd
    linarith

/-! ## Numbers of the working precision -/

theorem abs_signFactor (negative : Bool) : |signFactor negative| = 1 := by
  cases negative with
  | false => exact abs_one
  | true => rw [signFactor, if_pos rfl, abs_neg, abs_one]

/-- The parts of a number beside its sign are its absolute value, in either base. -/
theorem abs_signed (negative : Bool) (m : ℕ) {b : ℚ} (hb : 0 < b) (e : ℤ) :
    |signFactor negative * (m * b ^ e)| = m * b ^ e := by
  have hnonneg : 0 ≤ m * b ^ e := mul_nonneg (Nat.cast_nonneg m) (zpow_pos hb e).le
  rw [abs_mul, abs_signFactor, one_mul, abs_of_nonneg hnonneg]

namespace Decimal

/-- A number with no more digits than the working precision, none of them below the last place. -/
def IsWorking (q : ℚ) : Prop :=
  ∃ m e : ℤ, |m| < 10 ^ precision ∧ minExponent ≤ e ∧ q = m * 10 ^ e

/--
The number of the working precision that is nearest to `x`. Of two equally near ones it is the even
multiple of the distance between them, which is the one with an even last digit.
-/
structure IsRounding (x q : ℚ) : Prop where
  working : IsWorking q
  nearest {r : ℚ} (hr : IsWorking r) : |q - x| ≤ |r - x|
  even {r : ℚ} (hr : IsWorking r) (hne : r ≠ q) (htie : |r - x| = |q - x|) :
    ∃ k : ℤ, q = 2 * k * |r - q|

theorem IsWorking.neg {q : ℚ} (h : IsWorking q) : IsWorking (-q) := by
  obtain ⟨m, e, hm, he, rfl⟩ := h
  refine ⟨-m, e, by rwa [abs_neg], he, ?_⟩
  push_cast
  ring

/-- No number but one is the rounding of `x`. -/
theorem IsRounding.unique {x p q : ℚ} (hp : IsRounding x p) (hq : IsRounding x q) : p = q := by
  by_contra hne
  have htie := le_antisymm (hp.nearest hq.working) (hq.nearest hp.working)
  obtain ⟨k, hk⟩ := hp.even hq.working (Ne.symm hne) htie.symm
  obtain ⟨l, hl⟩ := hq.even hp.working hne htie
  have hgap : |p - q| ≠ 0 := abs_ne_zero.mpr (sub_ne_zero.mpr hne)
  -- Both would be even multiples of the distance between them.
  have hdifference : p - q = 2 * (k - l : ℚ) * |p - q| := by
    rw [abs_sub_comm q p] at hk
    linarith
  have hdistance : |p - q| = |2 * (k - l : ℚ)| * |p - q| := by
    calc
      |p - q| = abs (2 * (k - l : ℚ) * |p - q|) := by rw [← hdifference]
      _ = |2 * (k - l : ℚ)| * |p - q| := by rw [abs_mul, abs_abs]
  have hone : |2 * (k - l)| = 1 := by
    have hcancel := (right_eq_mul₀ hgap).mp hdistance
    exact_mod_cast hcancel
  rcases abs_eq_abs.mp (hone.trans abs_one.symm) with h | h
  · omega
  · omega

theorem IsRounding.neg {x q : ℚ} (h : IsRounding x q) : IsRounding (-x) (-q) := by
  have hmirror (a b : ℚ) : |a - -b| = |-a - b| := by
    rw [sub_neg_eq_add, ← abs_neg, neg_add']
  refine ⟨h.working.neg, ?_, ?_⟩
  · intro r hr
    rw [hmirror, hmirror, neg_neg]
    exact h.nearest hr.neg
  · intro r hr hne htie
    rw [hmirror, hmirror, neg_neg] at htie
    obtain ⟨k, hk⟩ := h.even hr.neg (fun heq => hne (neg_eq_iff_eq_neg.mp heq)) htie
    refine ⟨-k, ?_⟩
    calc
      -q = -(2 * k * |-r - q|) := congrArg Neg.neg hk
      _ = 2 * (-k : ℤ) * |r - -q| := by
        rw [hmirror]
        push_cast
        ring

theorem IsRounding.signed {x q : ℚ} (h : IsRounding x q) (negative : Bool) :
    IsRounding (signFactor negative * x) (signFactor negative * q) := by
  cases negative with
  | false => simpa [signFactor] using h
  | true => simpa [signFactor] using h.neg

theorem IsWorking.isRounding {x : ℚ} (h : IsWorking x) : IsRounding x x := by
  refine ⟨h, ?_, ?_⟩
  · intro r hr
    rw [sub_self, abs_zero]
    exact abs_nonneg _
  · intro r hr hne htie
    rw [sub_self, abs_zero, abs_eq_zero, sub_eq_zero] at htie
    exact absurd htie hne

/-- Rounding is exact for the numbers of the working precision, and for no others. -/
theorem IsRounding.eq_iff {x q : ℚ} (h : IsRounding x q) : q = x ↔ IsWorking x := by
  constructor
  · rintro rfl
    exact h.working
  · intro hx
    exact h.unique hx.isRounding

/-! ## Rounding to a place -/

/-- Numbers of the working precision are multiples of a power of ten, or have fewer places. -/
theorem IsWorking.multiple_or_lt {r : ℚ} (h : IsWorking r) (u : ℤ) :
    (∃ j : ℤ, r = j * 10 ^ u) ∨ minExponent < u ∧ |r| < 10 ^ (u + precision - 1) := by
  obtain ⟨m, e, hm, he, rfl⟩ := h
  by_cases hu : u ≤ e
  · left
    refine ⟨m * 10 ^ (e - u).toNat, ?_⟩
    have hpower : (10 : ℚ) ^ e = 10 ^ (e - u).toNat * 10 ^ u := by
      rw [← zpow_natCast, ← zpow_add₀ (by norm_num)]
      congr 1
      omega
    push_cast
    rw [hpower, mul_assoc]
  · right
    refine ⟨by omega, ?_⟩
    have hcast : |(m : ℚ)| < 10 ^ precision := by exact_mod_cast hm
    calc
      |(m : ℚ) * 10 ^ e| = |(m : ℚ)| * 10 ^ e := by
        rw [abs_mul, abs_of_pos (zpow_pos (by norm_num) e : (0 : ℚ) < 10 ^ e)]
      _ < 10 ^ precision * 10 ^ e := mul_lt_mul_of_pos_right hcast (zpow_pos (by norm_num) e)
      _ = 10 ^ ((precision : ℤ) + e) := by rw [zpow_add₀ (by norm_num), zpow_natCast]
      _ ≤ 10 ^ (u + precision - 1) := zpow_le_zpow_right₀ (by norm_num) (by omega)

/-- A number with enough places has a multiple of the last one as near as any other number. -/
theorem IsWorking.exists_multiple {x r : ℚ} {u : ℤ} (h : IsWorking r)
    (hlarge : u = minExponent ∨ 10 ^ (u + precision - 1) ≤ x) :
    ∃ j : ℤ, |j * 10 ^ u - x| ≤ |r - x| ∧ (|r - x| = |j * 10 ^ u - x| → r = j * 10 ^ u) := by
  rcases h.multiple_or_lt u with ⟨j, rfl⟩ | ⟨hu, hlt⟩
  · exact ⟨j, le_rfl, fun _ => rfl⟩
  · have hx : (10 : ℚ) ^ (u + precision - 1) ≤ x := hlarge.resolve_left (by omega)
    have hr : r < 10 ^ (u + precision - 1) := (abs_lt.mp hlt).2
    -- The least number with that many places lies between the two.
    have hleast : ((10 ^ (precision - 1) : ℤ) : ℚ) * 10 ^ u = 10 ^ (u + precision - 1) := by
      rw [Int.cast_pow, ← zpow_natCast, Int.cast_ofNat, ← zpow_add₀ (by norm_num)]
      congr 1
      have hprecision : precision = 28 := rfl
      omega
    refine ⟨10 ^ (precision - 1), ?_⟩
    rw [hleast, abs_of_nonpos (by linarith), abs_of_nonpos (by linarith)]
    constructor
    · linarith
    · intro htie
      linarith

/-- The power of ten after the largest coefficient, with the point moved by one place. -/
theorem pow_precision_mul (u : ℤ) :
    ((10 ^ precision : ℕ) : ℚ) * 10 ^ u = (10 ^ (precision - 1) : ℕ) * 10 ^ (u + 1) := by
  rw [zpow_add₀ (by norm_num), precision]
  push_cast
  ring

theorem isWorking_of_le {r : ℕ} {u : ℤ} (hr : r ≤ 10 ^ precision) (hu : minExponent ≤ u) :
    IsWorking (r * 10 ^ u) := by
  by_cases hlast : r = 10 ^ precision
  · refine ⟨(10 ^ (precision - 1) : ℕ), u + 1, by decide, by omega, ?_⟩
    rw [hlast, pow_precision_mul, Int.cast_natCast]
  · refine ⟨r, u, ?_, hu, by rw [Int.cast_natCast]⟩
    rw [Nat.abs_cast]
    exact_mod_cast Nat.lt_of_le_of_ne hr hlast

/-- A number is rounded to the place `u`, if it has as many digits above as the precision. -/
theorem isRounding_roundHalfEven {c : ℕ} {e u : ℤ} (heu : e ≤ u) (hu : minExponent ≤ u)
    (hsmall : (c : ℚ) * 10 ^ e < 10 ^ (u + precision))
    (hlarge : u = minExponent ∨ 10 ^ (u + precision - 1) ≤ (c : ℚ) * 10 ^ e) :
    IsRounding (c * 10 ^ e) (roundHalfEven c (10 ^ (u - e).toNat) * 10 ^ u) := by
  generalize hd : 10 ^ (u - e).toNat = d
  have hpos : 0 < d := by
    rw [← hd]
    exact Nat.pow_pos (by decide)
  have hunit : (0 : ℚ) < 10 ^ e := zpow_pos (by norm_num) e
  have hscale : (10 : ℚ) ^ u = d * 10 ^ e := by
    rw [← hd, Nat.cast_pow, Nat.cast_ofNat, ← zpow_natCast, ← zpow_add₀ (by norm_num)]
    congr 1
    omega
  -- Distances between multiples of the two places are whole numbers of the lower place.
  have hdistance (j : ℤ) : |j * 10 ^ u - (c : ℚ) * 10 ^ e| = (|j * d - c| : ℤ) * 10 ^ e := by
    rw [hscale, ← mul_assoc, ← sub_mul, abs_mul, abs_of_pos hunit]
    push_cast
    rfl
  have hchosen := hdistance (roundHalfEven c d)
  rw [Int.cast_natCast] at hchosen
  have hnearest (j : ℤ) : |(roundHalfEven c d : ℚ) * 10 ^ u - c * 10 ^ e| ≤
      |j * 10 ^ u - (c : ℚ) * 10 ^ e| := by
    rw [hchosen, hdistance]
    refine mul_le_mul_of_nonneg_right ?_ hunit.le
    exact_mod_cast roundHalfEven_nearest c hpos j
  refine ⟨isWorking_of_le ?_ hu, ?_, ?_⟩
  · have hbelow : c < 10 ^ precision * d := by
      rw [add_comm, zpow_add₀ (by norm_num), zpow_natCast, hscale, ← mul_assoc] at hsmall
      exact_mod_cast lt_of_mul_lt_mul_right hsmall hunit.le
    have hnear := (roundHalfEven_near c d hpos).1
    by_contra hlt
    have hmore := Nat.mul_le_mul_right d (Nat.succ_le_of_lt (Nat.lt_of_not_le hlt))
    rw [Nat.succ_mul] at hmore
    omega
  · intro r hr
    obtain ⟨j, hj, -⟩ := hr.exists_multiple hlarge
    exact (hnearest j).trans hj
  · intro r hr hne htie
    obtain ⟨j, hj, hmultiple⟩ := hr.exists_multiple hlarge
    obtain rfl := hmultiple (le_antisymm (htie.trans_le (hnearest j)) hj)
    have hother : j ≠ roundHalfEven c d := by
      rintro rfl
      rw [Int.cast_natCast] at hne
      exact hne rfl
    have hequal : |j * d - c| = |(roundHalfEven c d : ℤ) * d - c| := by
      rw [hchosen, hdistance] at htie
      exact_mod_cast mul_right_cancel₀ hunit.ne' htie
    obtain ⟨hnext, k, hk⟩ := roundHalfEven_tie hpos hother hequal
    have hgap : |(j : ℚ) * 10 ^ u - roundHalfEven c d * 10 ^ u| = 10 ^ u := by
      rw [← sub_mul, abs_mul, abs_of_pos (zpow_pos (by norm_num) u : (0 : ℚ) < 10 ^ u)]
      have hcast : |(j : ℚ) - roundHalfEven c d| = 1 := by exact_mod_cast hnext
      rw [hcast, one_mul]
    refine ⟨k, ?_⟩
    rw [hgap, hk]
    push_cast
    ring

/-! ## Results of arithmetic -/

/-- Digits far below the place that is rounded to leave nothing. -/
theorem roundHalfEven_eq_zero {n d : ℕ} (h : 2 * n < d) : roundHalfEven n d = 0 := by
  have hlt : n < d := by omega
  rw [roundHalfEven, Nat.div_eq_of_lt hlt, Nat.mod_eq_of_lt hlt, if_pos h]

theorem roundHalfEven_min (c k : ℕ) :
    roundHalfEven c (Nat.pow 10 (min k ((Nat.toDigits 10 c).length + 1))) =
      roundHalfEven c (10 ^ k) := by
  by_cases hk : k ≤ (Nat.toDigits 10 c).length + 1
  · rw [Nat.min_eq_left hk]
    rfl
  · have hfew := NumberKey.lt_pow_toDigits c
    have hpow : 2 * c < 10 ^ ((Nat.toDigits 10 c).length + 1) := by
      rw [Nat.pow_succ]
      omega
    have hle : 10 ^ ((Nat.toDigits 10 c).length + 1) ≤ 10 ^ k :=
      Nat.pow_le_pow_right (by decide) (by omega)
    rw [Nat.min_eq_right (by omega), roundHalfEven_eq_zero (hpow.trans_le hle)]
    exact roundHalfEven_eq_zero hpow

/-- The place that a number other than zero is rounded to. -/
def roundingUnit (c : ℕ) (e : ℤ) : ℤ :=
  max ((Nat.toDigits 10 c).length + e - precision) minExponent

theorem lt_roundingUnit (c : ℕ) (e : ℤ) :
    (c : ℚ) * 10 ^ e < 10 ^ (roundingUnit c e + precision) := by
  have hplaces : (Nat.toDigits 10 c).length + e ≤ roundingUnit c e + precision := by
    rw [roundingUnit]
    omega
  exact (NumberKey.lt_pow_places c e).trans_le (zpow_le_zpow_right₀ (by norm_num) hplaces)

theorem roundingUnit_cases {c : ℕ} (hc : c ≠ 0) (e : ℤ) :
    roundingUnit c e = minExponent ∨
      10 ^ (roundingUnit c e + precision - 1) ≤ (c : ℚ) * 10 ^ e := by
  by_cases hunit : roundingUnit c e = minExponent
  · exact Or.inl hunit
  · have hplaces : roundingUnit c e + precision = (Nat.toDigits 10 c).length + e := by
      rw [roundingUnit] at hunit ⊢
      omega
    rw [hplaces]
    exact Or.inr (NumberKey.pow_places_le hc e)

/-- Only digits behind the last place are rounded to nothing. -/
theorem IsRounding.le_minExponent {x : ℚ} {u : ℤ} (h : IsRounding x 0)
    (hlarge : u = minExponent ∨ 10 ^ (u + precision - 1) ≤ x) : u ≤ minExponent := by
  by_contra hu
  have hx : (10 : ℚ) ^ (u + precision - 1) ≤ x := hlarge.resolve_left (by omega)
  have hpos : (0 : ℚ) < 10 ^ (u + precision - 1) := zpow_pos (by norm_num) _
  have hworking : IsWorking (10 ^ (u + precision - 1)) := by
    have hprecision : precision = 28 := rfl
    exact ⟨1, u + precision - 1, by decide, by omega, by rw [Int.cast_one, one_mul]⟩
  have hnearest := h.nearest hworking
  rw [zero_sub, abs_neg, abs_of_nonneg (by linarith), abs_of_nonpos (by linarith)] at hnearest
  linarith

/-- A number whose leading digit is beyond the largest exponent is one that is too large. -/
theorem maxExponent_lt_iff {c : ℕ} {e : ℤ} (hzero : c = 0 → e ≤ maxExponent) :
    maxExponent < (Nat.toDigits 10 c).length + e - 1 ↔
      (10 : ℚ) ^ (maxExponent + 1) ≤ c * 10 ^ e := by
  by_cases hc : c = 0
  · have hbound := hzero hc
    have hone : (Nat.toDigits 10 c).length = 1 := by rw [hc]; rfl
    have hpos : (0 : ℚ) < 10 ^ (maxExponent + 1) := zpow_pos (by norm_num) _
    have hnone : (c : ℚ) * 10 ^ e = 0 := by rw [hc, Nat.cast_zero, zero_mul]
    rw [hnone]
    refine iff_of_false (by omega) (not_le.mpr hpos)
  · constructor
    · intro hlarge
      refine le_trans ?_ (NumberKey.pow_places_le hc e)
      exact zpow_le_zpow_right₀ (by norm_num) (by omega)
    · intro hlarge
      have hlt := hlarge.trans_lt (NumberKey.lt_pow_places c e)
      have hplaces := (zpow_lt_zpow_iff_right₀ (by norm_num)).mp hlt
      omega

/-- A magnitude has its sign, unless its leading digit is beyond the largest exponent. -/
def ofMagnitude (negative : Bool) (c : ℕ) (e : ℤ) : Except DecimalSignal Decimal :=
  if maxExponent < (Nat.toDigits 10 c).length + e - 1 then .error .overflow
  else .ok (finite negative c e)

theorem round_eq (negative : Bool) {c : ℕ} (hc : c ≠ 0) (e : ℤ) :
    ∃ (c' : ℕ) (e' : ℤ), IsRounding (c * 10 ^ e) (c' * 10 ^ e') ∧ (c' = 0 → e' ≤ maxExponent) ∧
      round negative c e = ofMagnitude negative c' e' := by
  have hunit :
      roundingUnit c e = max ((Nat.toDigits 10 c).length + e - precision) minExponent := rfl
  have hbottom : minExponent ≤ roundingUnit c e := le_max_right _ _
  by_cases hlow : e < roundingUnit c e
  · have hrounding := isRounding_roundHalfEven hlow.le hbottom (lt_roundingUnit c e)
      (roundingUnit_cases hc e)
    rw [← roundHalfEven_min] at hrounding
    by_cases hlast : roundHalfEven c (Nat.pow 10
        (min (roundingUnit c e - e).toNat ((Nat.toDigits 10 c).length + 1))) = Nat.pow 10 precision
    · refine ⟨Nat.pow 10 (precision - 1), roundingUnit c e + 1, ?_, ?_, ?_⟩
      · rw [hlast] at hrounding
        exact pow_precision_mul (roundingUnit c e) ▸ hrounding
      · exact fun hzero => absurd hzero (by decide)
      · rw [round, if_neg hc]
        simp only [← hunit, if_pos hlow, if_pos hlast]
        rfl
    · refine ⟨_, _, hrounding, ?_, ?_⟩
      · intro hzero
        rw [hzero, Nat.cast_zero, zero_mul] at hrounding
        exact (hrounding.le_minExponent (roundingUnit_cases hc e)).trans (by decide)
      · rw [round, if_neg hc]
        simp only [← hunit, if_pos hlow, if_neg hlast]
        rfl
  · refine ⟨c, e, ?_, fun hzero => absurd hzero hc, ?_⟩
    · apply IsWorking.isRounding
      refine ⟨c, e, ?_, hbottom.trans (not_lt.mp hlow), by rw [Int.cast_natCast]⟩
      have hfits : c < 10 ^ precision :=
        (Nat.length_toDigits_le_iff (by decide) (by decide)).mp (by omega)
      rw [Nat.abs_cast]
      exact_mod_cast hfits
    · rw [round, if_neg hc]
      simp only [← hunit, if_neg hlow]
      rfl

/--
A finite number in the working precision is the rounding of what its parts denote, and the only
failure is that this is too large.
-/
theorem round_spec (negative : Bool) (c : ℕ) (e : ℤ) :
    ∃ q, IsRounding (signFactor negative * (c * 10 ^ e)) q ∧
      (|q| < 10 ^ (maxExponent + 1) → ∃ d, round negative c e = .ok d ∧ d.toRat? = some q) ∧
      (10 ^ (maxExponent + 1) ≤ |q| → round negative c e = .error .overflow) := by
  by_cases hc : c = 0
  · have hworking : IsWorking 0 := ⟨0, 0, by decide, by decide, by rw [Int.cast_zero, zero_mul]⟩
    have hpos : (0 : ℚ) < 10 ^ (maxExponent + 1) := zpow_pos (by norm_num) _
    refine ⟨0, ?_, ?_, ?_⟩
    · rw [hc, Nat.cast_zero, zero_mul, mul_zero]
      exact hworking.isRounding
    · intro _
      rw [round, if_pos hc]
      exact ⟨_, rfl, by rw [toRat?, Nat.cast_zero, zero_mul, mul_zero]⟩
    · intro hlarge
      rw [abs_zero] at hlarge
      exact absurd hlarge (not_le.mpr hpos)
  · obtain ⟨c', e', hrounding, hzero, heq⟩ := round_eq negative hc e
    have hmagnitude : |signFactor negative * ((c' : ℚ) * 10 ^ e')| = c' * 10 ^ e' :=
      abs_signed negative c' (by norm_num) e'
    refine ⟨signFactor negative * (c' * 10 ^ e'), hrounding.signed negative, ?_, ?_⟩
    · intro hsmall
      rw [hmagnitude] at hsmall
      refine ⟨finite negative c' e', ?_, rfl⟩
      rw [heq, ofMagnitude, if_neg]
      exact fun hlarge => absurd hsmall (not_lt.mpr ((maxExponent_lt_iff hzero).mp hlarge))
    · intro hlarge
      rw [hmagnitude] at hlarge
      rw [heq, ofMagnitude, if_pos ((maxExponent_lt_iff hzero).mpr hlarge)]

/-- A finite number is negated up to the working precision, unless that makes it too large. -/
theorem negate_spec {d : Decimal} {x : ℚ} (hx : d.toRat? = some x) :
    ∃ q, IsRounding (-x) q ∧
      (|q| < 10 ^ (maxExponent + 1) → ∃ n, d.negate = .ok n ∧ n.toRat? = some q) ∧
      (10 ^ (maxExponent + 1) ≤ |q| → d.negate = .error .overflow) := by
  cases d with
  | finite negative c e =>
      obtain rfl := Option.some.inj hx
      have hsign : -(signFactor negative * ((c : ℚ) * 10 ^ e)) =
          signFactor (!negative && c ≠ 0) * (c * 10 ^ e) := by
        by_cases hc : c = 0
        · rw [hc, Nat.cast_zero, zero_mul, mul_zero, mul_zero, neg_zero]
        · cases negative <;> simp [signFactor, hc]
      rw [hsign]
      exact round_spec _ c e
  | infinite negative => cases hx
  | nan negative signaling payload origin => cases hx

end Decimal

end PagedTables
