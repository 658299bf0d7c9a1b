import Mathlib.Algebra.Group.Int.Defs
import Mathlib.Data.Int.Notation
import Mathlib.Data.Nat.Notation
import PagedTables.Service.Sleep

/-!
# Waits that the system allows

The system can wait for a time if it is a whole number or a double of seconds that is not negative,
and if its nanoseconds fit into 63 bits.
-/
namespace PagedTables

namespace Binary64

/-- A magnitude has no negative whole part, and zero has none with either sign. -/
theorem truncate?_ofRank_nonneg {negative : Bool} {rank : ℕ} {n : ℤ}
    (hsign : negative = true → rank = 0)
    (h : (ofRank negative rank).truncate? = some n) : 0 ≤ n := by
  rw [ofRank] at h
  split at h
  · cases negative with
    | false =>
        obtain rfl := Option.some.inj h
        exact Int.natCast_nonneg _
    | true =>
        obtain rfl := hsign rfl
        obtain rfl := Option.some.inj h
        have hzero : numerator 0 = 0 := rfl
        simp [hzero]
  · cases h

/-- What is not below zero has no product below zero. -/
theorem truncate?_times_nonneg {x : Binary64} {factor : ℕ} {n : ℤ} (hx : x.isNegative = false)
    (hn : (x.times factor).truncate? = some n) : 0 ≤ n := by
  cases x with
  | nan origin => cases hn
  | infinite negative => cases hn
  | finite negative rank =>
      rw [times, ofRatio] at hn
      split at hn
      · exact truncate?_ofRank_nonneg (fun _ => rfl) hn
      · next hne =>
        refine truncate?_ofRank_nonneg (fun hnegative => ?_) hn
        have hzero : rank.val = 0 := by simpa [isNegative, hnegative] using hx
        have hnumerator : numerator rank * factor = 0 := by
          rw [hzero]
          exact Nat.zero_mul factor
        exact absurd hnumerator hne

end Binary64

namespace Value

/-- A time that the system can wait for: its nanoseconds, without a fraction, fit into 63 bits. -/
inductive IsTime : Value → Prop
  | whole {v : Value} {n : ℤ} (hv : v.wholeNumber? = some n) (hn : 0 ≤ n)
      (hsmall : n * 10 ^ 9 < 2 ^ 63) : IsTime v
  | double {x : Binary64} {n : ℤ} (hx : x.isNegative = false)
      (hn : (x.times nanosecondsPerSecond).truncate? = some n) (hsmall : n < 2 ^ 63) :
      IsTime (.float x)

theorem checkNanoseconds_eq_ok_iff {isNegative : Bool} {n : ℤ}
    (hsign : isNegative = false → 0 ≤ n) :
    checkNanoseconds isNegative n = .ok () ↔ isNegative = false ∧ n < 2 ^ 63 := by
  have hlimit : (nanosecondLimit : ℤ) = 2 ^ 63 := rfl
  rw [checkNanoseconds, hlimit]
  cases isNegative with
  | true => split <;> simp
  | false =>
      have hn := hsign rfl
      by_cases hsmall : n < 2 ^ 63
      · rw [if_neg (by omega)]
        simpa using hsmall
      · rw [if_pos (by omega)]
        simpa using hsmall

theorem systemSleep_of_wholeNumber? {v : Value} {n : ℤ} (hv : v.wholeNumber? = some n) :
    systemSleep v = .ok () ↔ 0 ≤ n ∧ n * 10 ^ 9 < 2 ^ 63 := by
  have hseconds : (nanosecondsPerSecond : ℤ) = 10 ^ 9 := rfl
  have hsign : decide (n < 0) = false → 0 ≤ n * 10 ^ 9 := by
    intro hn
    have : 0 ≤ n := by simpa using hn
    omega
  simp only [systemSleep, hv]
  rw [hseconds, checkNanoseconds_eq_ok_iff hsign]
  simp

theorem systemSleep_float (x : Binary64) : systemSleep (.float x) = .ok () ↔
    x.isNegative = false ∧ ∃ n, (x.times nanosecondsPerSecond).truncate? = some n ∧ n < 2 ^ 63 := by
  have hnumber : (float x).wholeNumber? = none := rfl
  simp only [systemSleep, hnumber]
  cases hn : (x.times nanosecondsPerSecond).truncate? with
  | none => simp
  | some n =>
      dsimp only
      rw [checkNanoseconds_eq_ok_iff fun hx => Binary64.truncate?_times_nonneg hx hn]
      simp

/-- The system waits for times and for nothing else. -/
theorem systemSleep_eq_ok_iff (v : Value) : systemSleep v = .ok () ↔ v.IsTime := by
  cases hv : v.wholeNumber? with
  | some n =>
      rw [systemSleep_of_wholeNumber? hv]
      constructor
      · exact fun ⟨hn, hsmall⟩ => .whole hv hn hsmall
      · intro h
        cases h with
        | whole hv' hn hsmall =>
            obtain rfl := Option.some.inj (hv.symm.trans hv')
            exact ⟨hn, hsmall⟩
        | double => cases hv
  | none =>
      constructor
      · intro h
        cases v with
        | float x =>
            obtain ⟨hx, n, hn, hsmall⟩ := (systemSleep_float x).mp h
            exact .double hx hn hsmall
        | _ => simp [systemSleep, hv] at h
      · intro h
        cases h with
        | whole hv' => cases hv.symm.trans hv'
        | double hx hn hsmall => exact (systemSleep_float _).mpr ⟨hx, _, hn, hsmall⟩

end Value

end PagedTables
