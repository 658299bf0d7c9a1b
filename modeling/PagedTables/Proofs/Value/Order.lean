import Mathlib.Algebra.Order.Field.Rat
import Mathlib.Data.Rat.Cast.Order
import Mathlib.Tactic.Linarith
import Mathlib.Tactic.Ring
import PagedTables.Proofs.Value.Equality
import PagedTables.Value.Arithmetic

/-!
# The order of numbers

Numbers of every type are compared with integers in the order of the rational numbers that they
denote. The comparison does not multiply out what it can do without: it looks at the number of
places in front of the point first, and this agrees with the order too.
-/
namespace PagedTables

/-! ## The rational numbers that values denote -/

/-- The factor that stands for a sign. -/
def signFactor (negative : Bool) : ℚ :=
  if negative then -1 else 1

/-- The rational number of a sign, a coefficient and a power of ten, unless it is infinite. -/
def NumberKey.toRat? : NumberKey → Option ℚ
  | finite negative coefficient power => some (signFactor negative * (coefficient * 10 ^ power))
  | infinite _ => none

/-- The rational number of a double, unless it is infinite or no number. -/
def Binary64.toRat? : Binary64 → Option ℚ
  | finite negative rank =>
    some (signFactor negative * (significand rank * 2 ^ exponent rank))
  | _ => none

/-- The rational number of a decimal, unless it is infinite or no number. -/
def Decimal.toRat? : Decimal → Option ℚ
  | finite negative coefficient exponent =>
    some (signFactor negative * (coefficient * 10 ^ exponent))
  | _ => none

/-- The rational number that a value denotes, if it is a number and finite. -/
def Value.toRat? : Value → Option ℚ
  | bool b => some (if b then 1 else 0)
  | int n => some n
  | member ⟨_, _, .number n, _, _⟩ => some n
  | float x => x.toRat?
  | decimal d => d.toRat?
  | _ => none

namespace NumberKey

theorem reduce_toRat (c : Nat) (p : Int) :
    ((reduce c p).1 : ℚ) * 10 ^ (reduce c p).2 = c * 10 ^ p := by
  obtain ⟨zeros, hpower, hproduct⟩ := reduce_eq c p
  have hcast : ((reduce c p).1 : ℚ) * 10 ^ zeros = c := by exact_mod_cast hproduct
  rw [hpower, zpow_add₀ (by norm_num), zpow_natCast, ← hcast]
  ring

theorem toRat?_ofDecimal (negative : Bool) (c : Nat) (p : Int) :
    (ofDecimal negative c p).toRat? = some (signFactor negative * (c * 10 ^ p)) := by
  rw [ofDecimal]
  by_cases hzero : c = 0
  · simp [hzero, toRat?]
  · rw [if_neg hzero]
    exact congrArg (fun m => some (signFactor negative * m)) (reduce_toRat c p)

/-- A power is one of a natural number, divided by another one if its exponent is negative. -/
theorem pow_toNat {b : ℚ} (hb : b ≠ 0) (e : Int) : b ^ e.toNat = b ^ e * b ^ (-e).toNat := by
  rw [← zpow_natCast, ← zpow_natCast, ← zpow_add₀ hb]
  congr 1
  omega

theorem toRat?_ofBinary64? {x : Binary64} {q : ℚ} (h : x.toRat? = some q) :
    ∃ k, ofBinary64? x = some k ∧ k.toRat? = some q := by
  cases x with
  | nan origin => cases h
  | infinite negative => cases h
  | finite negative rank =>
      refine ⟨_, rfl, ?_⟩
      rw [toRat?_ofDecimal, ← h, Binary64.toRat?]
      congr 2
      generalize hexponent : Binary64.exponent rank = e
      -- The powers of five and of two below the point make up the power of ten.
      have hten : (2 : ℚ) ^ (-e).toNat * 5 ^ (-e).toNat * 10 ^ (-((-e).toNat : Int)) = 1 := by
        rw [← mul_pow, zpow_neg, zpow_natCast]
        norm_num
      have hnumerator : (Binary64.numerator rank : ℚ) =
          Binary64.significand rank * (2 ^ e * 2 ^ (-e).toNat) := by
        rw [← pow_toNat two_ne_zero, Binary64.numerator, hexponent]
        norm_cast
      calc
        ((Binary64.numerator rank * Nat.pow 5 (-e).toNat : ℕ) : ℚ) * 10 ^ (-((-e).toNat : Int))
          = Binary64.numerator rank * 5 ^ (-e).toNat * 10 ^ (-((-e).toNat : Int)) := by norm_cast
        _ = Binary64.significand rank * 2 ^ e *
              (2 ^ (-e).toNat * 5 ^ (-e).toNat * 10 ^ (-((-e).toNat : Int))) := by
            rw [hnumerator]
            ring
        _ = Binary64.significand rank * 2 ^ e := by rw [hten, mul_one]

/-! ## Comparison with an integer -/

/-- A number is below the power of ten with its number of digits. -/
theorem lt_pow_toDigits (c : Nat) : c < 10 ^ (Nat.toDigits 10 c).length :=
  (Nat.length_toDigits_le_iff (by decide) Nat.length_toDigits_pos).mp (Nat.le_refl _)

theorem pow_toDigits_le {c : Nat} (hc : c ≠ 0) : 10 ^ ((Nat.toDigits 10 c).length - 1) ≤ c := by
  by_cases hone : (Nat.toDigits 10 c).length = 1
  · rw [hone]
    exact Nat.one_le_iff_ne_zero.mpr hc
  · have hpos : 0 < (Nat.toDigits 10 c).length := Nat.length_toDigits_pos
    by_contra hlt
    have hshort := (Nat.length_toDigits_le_iff (by decide) (by omega)).mpr (Nat.lt_of_not_le hlt)
    omega

theorem lt_pow_places (c : Nat) (p : Int) :
    (c : ℚ) * 10 ^ p < 10 ^ (((Nat.toDigits 10 c).length : Int) + p) := by
  calc
    (c : ℚ) * 10 ^ p < (10 : ℚ) ^ (Nat.toDigits 10 c).length * 10 ^ p := by
      refine mul_lt_mul_of_pos_right ?_ (zpow_pos (by norm_num) p)
      exact_mod_cast lt_pow_toDigits c
    _ = (10 : ℚ) ^ (((Nat.toDigits 10 c).length : Int) + p) := by
      rw [zpow_add₀ (by norm_num), zpow_natCast]

theorem pow_places_le {c : Nat} (hc : c ≠ 0) (p : Int) :
    (10 : ℚ) ^ (((Nat.toDigits 10 c).length : Int) + p - 1) ≤ c * 10 ^ p := by
  have hpos : 0 < (Nat.toDigits 10 c).length := Nat.length_toDigits_pos
  have hplaces : ((Nat.toDigits 10 c).length : Int) + p - 1 =
      ((Nat.toDigits 10 c).length - 1 : ℕ) + p := by omega
  calc
    (10 : ℚ) ^ (((Nat.toDigits 10 c).length : Int) + p - 1) =
        10 ^ ((Nat.toDigits 10 c).length - 1) * 10 ^ p := by
      rw [hplaces, zpow_add₀ (by norm_num), zpow_natCast]
    _ ≤ c * 10 ^ p := by
      refine mul_le_mul_of_nonneg_right ?_ (zpow_pos (by norm_num) p).le
      exact_mod_cast pow_toDigits_le hc

/-- An integer with fewer places in front of the point is smaller. -/
theorem abs_lt_of_places {c : Nat} (hc : c ≠ 0) {p n : Int}
    (h : ((Nat.toDigits 10 n.natAbs).length : Int) + 1 < (Nat.toDigits 10 c).length + p) :
    |(n : ℚ)| < c * 10 ^ p := by
  calc
    |(n : ℚ)| = (n.natAbs : ℚ) := by
      rw [← Int.cast_abs, Int.abs_eq_natAbs, Int.cast_natCast]
    _ < (10 : ℚ) ^ (Nat.toDigits 10 n.natAbs).length := by
      exact_mod_cast lt_pow_toDigits n.natAbs
    _ ≤ (10 : ℚ) ^ (((Nat.toDigits 10 c).length : Int) + p - 1) := by
      rw [← zpow_natCast]
      exact zpow_le_zpow_right₀ (by norm_num) (by omega)
    _ ≤ c * 10 ^ p := pow_places_le hc p

/-- A number that has nothing but zeros in front of the point is below 1. -/
theorem lt_one_of_places {c : Nat} {p : Int} (h : ((Nat.toDigits 10 c).length : Int) + p < 0) :
    (c : ℚ) * 10 ^ p < 1 :=
  (lt_pow_places c p).trans_le (zpow_le_one_of_nonpos₀ (by norm_num) h.le)

theorem compare_signFactor_of_lt {m : ℚ} {n : Int} (h : |(n : ℚ)| < m) (negative : Bool) :
    compare (signFactor negative * m) n = if negative then .lt else .gt := by
  obtain ⟨hlow, hhigh⟩ := abs_lt.mp h
  cases negative with
  | true =>
      rw [if_pos rfl, compare_lt_iff_lt, signFactor, if_pos rfl]
      linarith
  | false =>
      rw [if_neg (by simp), compare_gt_iff_gt, signFactor, if_neg (by simp)]
      linarith

theorem compare_signFactor_of_lt_one
    {m : ℚ} (hpos : 0 < m) (hone : m < 1) {n : Int} (hn : n ≠ 0) (negative : Bool) :
    compare (signFactor negative * m) n = compare 0 n := by
  have hbound : -1 < signFactor negative * m ∧ signFactor negative * m < 1 := by
    cases negative <;> constructor <;> simp [signFactor] <;> linarith
  rcases Int.lt_or_gt_of_ne hn with hlt | hgt
  · have hcast : (n : ℚ) ≤ -1 := by exact_mod_cast Int.le_sub_one_of_lt hlt
    rw [compare_gt_iff_gt.mpr hlt, compare_gt_iff_gt]
    linarith
  · have hcast : (1 : ℚ) ≤ n := by exact_mod_cast hgt
    rw [compare_lt_iff_lt.mpr hgt, compare_lt_iff_lt]
    linarith

theorem compare_intCast (m n : Int) : compare (m : ℚ) (n : ℚ) = compare m n := by
  rw [← cmp_eq_compare, ← cmp_eq_compare]
  exact Int.cast_strictMono.cmp_map_eq m n

/-- The comparison of a number that is multiplied out. -/
theorem compare_magnitude (negative : Bool) (c : Nat) (p n : Int) :
    compare (if negative then -((c * Nat.pow 10 p.toNat : Nat) : Int)
        else (c * Nat.pow 10 p.toNat : Nat)) (n * Int.pow 10 (-p).toNat) =
      compare (signFactor negative * (c * 10 ^ p)) (n : ℚ) := by
  have hscale : (0 : ℚ) < 10 ^ (-p).toNat := by positivity
  have hmagnitude : ((c * Nat.pow 10 p.toNat : Nat) : ℚ) = c * 10 ^ p * 10 ^ (-p).toNat := by
    rw [mul_assoc, ← pow_toNat (by norm_num)]
    norm_cast
  have hsigned : ((if negative then -((c * Nat.pow 10 p.toNat : Nat) : Int)
      else (c * Nat.pow 10 p.toNat : Nat) : Int) : ℚ) =
        signFactor negative * (c * 10 ^ p) * 10 ^ (-p).toNat := by
    cases negative with
    | true =>
        rw [if_pos rfl, signFactor, if_pos rfl, Int.cast_neg, Int.cast_natCast, hmagnitude]
        ring
    | false =>
        rw [if_neg (by simp), signFactor, if_neg (by simp), Int.cast_natCast, hmagnitude]
        ring
  have hscaled : ((n * Int.pow 10 (-p).toNat : Int) : ℚ) = n * 10 ^ (-p).toNat := by norm_cast
  rw [← compare_intCast, hsigned, hscaled, ← cmp_eq_compare, ← cmp_eq_compare,
    cmp_mul_pos_right hscale]

/-- A finite number is compared with integers as the rational number that it denotes. -/
theorem ordering_eq_compare {k : NumberKey} {q : ℚ} (h : k.toRat? = some q) (n : Int) :
    k.ordering n = compare q n := by
  cases k with
  | infinite negative => cases h
  | finite negative c p =>
      cases h
      rw [ordering]
      dsimp only
      by_cases hc : c = 0
      · rw [if_pos hc, hc, ← compare_intCast]
        simp
      · rw [if_neg hc]
        by_cases hlarge : ((Nat.toDigits 10 n.natAbs).length : Int) + 1 <
            (Nat.toDigits 10 c).length + p
        · rw [if_pos hlarge]
          exact (compare_signFactor_of_lt (abs_lt_of_places hc hlarge) negative).symm
        · rw [if_neg hlarge]
          by_cases hsmall : ((Nat.toDigits 10 c).length : Int) + p < 0
          · have hpos : (0 : ℚ) < c * 10 ^ p :=
              mul_pos (by exact_mod_cast Nat.pos_of_ne_zero hc) (zpow_pos (by norm_num) p)
            have hone := lt_one_of_places hsmall
            rw [if_pos hsmall]
            by_cases hn : n = 0
            · rw [if_pos hn, hn]
              refine (compare_signFactor_of_lt ?_ negative).symm
              simpa using hpos
            · rw [if_neg hn]
              exact (compare_signFactor_of_lt_one hpos hone hn negative).symm
          · rw [if_neg hsmall]
            exact compare_magnitude negative c p n

end NumberKey

/-- A value that denotes a rational number is compared with integers as that number. -/
theorem Value.ordering_eq_compare {v : Value} {q : ℚ} (h : v.toRat? = some q) (n : Int) :
    v.ordering n = .ok (some (compare q n)) := by
  have hwhole (m : Int) : (.ok (some (compare m n)) : Except OperationFault (Option Ordering)) =
      .ok (some (compare (m : ℚ) (n : ℚ))) := by
    rw [NumberKey.compare_intCast]
  cases v with
  | bool b =>
      cases b with
      | true =>
          cases h
          exact_mod_cast hwhole 1
      | false =>
          cases h
          exact_mod_cast hwhole 0
  | int m =>
      cases h
      exact hwhole m
  | member m =>
      obtain ⟨typeName, names, content, style, hnamed⟩ := m
      cases content with
      | number m =>
          cases h
          exact hwhole m
      | _ => cases h
  | float x =>
      obtain ⟨k, hkey, hk⟩ := NumberKey.toRat?_ofBinary64? h
      have hordering : (float x).ordering n = .ok (some (k.ordering n)) := by
        simp [ordering, wholeNumber?, asInt?, numberKey?, hkey]
      rw [hordering, NumberKey.ordering_eq_compare hk]
  | decimal d =>
      cases d with
      | finite negative coefficient exponent =>
          have hk := NumberKey.toRat?_ofDecimal negative coefficient exponent
          cases h
          rw [← NumberKey.ordering_eq_compare hk]
          rfl
      | _ => cases h
  | _ => cases h

end PagedTables
