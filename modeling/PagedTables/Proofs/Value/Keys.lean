import PagedTables.Proofs.Value.Order

/-!
# Values as keys

What it takes for two values to be one key. They are equal across their types, or they are one and
the same NaN, which equals nothing. Numbers of all types are equal exactly if they denote the same
rational number.
-/
namespace PagedTables

namespace Value

/-- The values are equal; a NaN equals no value, not even itself. -/
def Equals (a b : Value) : Prop :=
  a.isNaN = false ∧ a.equal b = .ok true

/-- The values are one key: they are equal, or one and the same NaN. -/
def Collides (a b : Value) : Prop :=
  a.Equals b ∨ a.isSameNaN b = true

variable {a b : Value}

theorem isSameNaN_of_not_isNaN (h : a.isNaN = false) (b : Value) : a.isSameNaN b = false := by
  cases a with
  | float x =>
      cases x with
      | nan origin => cases h
      | _ => rfl
  | decimal d =>
      cases d with
      | nan negative signaling payload origin => cases h
      | _ => rfl
  | _ => rfl

/-- A NaN has no number. -/
theorem numberKey?_of_isNaN (h : a.isNaN = true) : a.numberKey? = some none := by
  cases a with
  | float x =>
      cases x with
      | nan origin => rfl
      | _ => cases h
  | decimal d =>
      cases d with
      | nan negative signaling payload origin => rfl
      | _ => cases h
  | _ => cases h

theorem equal_of_isNaN (h : a.isNaN = true) (b : Value) : a.equal b = equalAtoms a b := by
  cases a with
  | float x => rfl
  | decimal d => rfl
  | _ => cases h

/-- All that a NaN compares equal with is itself. -/
theorem equal_eq_true_of_isNaN (h : a.isNaN = true) :
    a.equal b = .ok true ↔ a.isSameNaN b = true := by
  rw [equal_of_isNaN h, equalAtoms, numberKey?_of_isNaN h]
  cases hsame : a.isSameNaN b with
  | true => simp
  | false =>
      cases b.numberKey? with
      | none => simp
      | some key => cases a.isSignaling || b.isSignaling <;> simp

theorem collides_iff_equal : a.Collides b ↔ a.equal b = .ok true := by
  cases h : a.isNaN with
  | true => simp [Collides, Equals, h, equal_eq_true_of_isNaN h]
  | false => simp [Collides, Equals, h, isSameNaN_of_not_isNaN h]

theorem answer_eq_true_iff {answer : Comparison} :
    (match answer with
      | .ok same => same
      | .error _ => false) = true ↔ answer = .ok true := by
  cases answer <;> simp

mutual

/-- Keys are the same if they compare equal. -/
theorem sameKey_iff_equal {a : Value} (h : a.isKey = true) (b : Value) :
    a.sameKey b = true ↔ a.equal b = .ok true := by
  cases a with
  | tuple xs =>
      cases b with
      | tuple ys =>
          rw [sameKey, equal]
          exact sameKeys_iff_equalAll h ys
      | _ => simp [sameKey, equal]
  | list xs => cases h
  | dict entries => cases h
  | _ => exact answer_eq_true_iff

theorem sameKeys_iff_equalAll {xs : List Value} (h : areKeys xs = true) (ys : List Value) :
    sameKeys xs ys = true ↔ equalAll xs ys = .ok true := by
  cases xs with
  | nil => simp [sameKeys, equalAll]
  | cons x xs =>
      rw [areKeys, Bool.and_eq_true] at h
      cases ys with
      | nil => simp [sameKeys, equalAll]
      | cons y ys =>
          rw [sameKeys, equalAll, Bool.and_eq_true, Comparison.andThen_eq_true,
            sameKey_iff_equal h.1 y, sameKeys_iff_equalAll h.2 ys]

end

/-- What a key is compared by is whether it is one key with another one. -/
theorem sameKey_iff_collides (h : a.isKey = true) : a.sameKey b = true ↔ a.Collides b :=
  (sameKey_iff_equal h b).trans collides_iff_equal.symm

end Value

/-! ## Equal numbers -/

namespace NumberKey

/-- A number is in the one form that it has: a zero is positive, and others do not end in zeros. -/
def Canonical : NumberKey → Prop
  | finite negative coefficient power =>
    (negative = false ∧ coefficient = 0 ∧ power = 0) ∨ coefficient % 10 ≠ 0
  | infinite _ => True

theorem reduce_mod {c : Nat} (hc : c ≠ 0) (p : Int) : (reduce c p).1 % 10 ≠ 0 := by
  induction c, p using reduce.induct with
  | case1 c p hzero ih =>
      rw [reduce, if_pos hzero]
      exact ih (by omega)
  | case2 c p hlast =>
      rw [reduce, if_neg hlast]
      exact fun hmod => hlast ⟨hc, hmod⟩

theorem canonical_ofDecimal (negative : Bool) (c : Nat) (p : Int) :
    (ofDecimal negative c p).Canonical := by
  rw [ofDecimal]
  by_cases hc : c = 0
  · rw [if_pos hc]
    exact .inl ⟨rfl, rfl, rfl⟩
  · rw [if_neg hc]
    exact .inr (reduce_mod hc p)

theorem eq_of_mul_pow_eq {c c' : Nat} {p p' : Int} (hc : c % 10 ≠ 0) (hle : p ≤ p')
    (h : (c : ℚ) * 10 ^ p = c' * 10 ^ p') : c = c' ∧ p = p' := by
  obtain ⟨n, rfl⟩ : ∃ n : Nat, p' = p + n := ⟨(p' - p).toNat, by omega⟩
  have hscaled : (c : ℚ) = c' * 10 ^ n := by
    rw [zpow_add₀ (by norm_num), zpow_natCast] at h
    have hpos : (10 : ℚ) ^ p ≠ 0 := zpow_ne_zero p (by norm_num)
    refine mul_right_cancel₀ hpos (h.trans ?_)
    ring
  have hwhole : c = c' * 10 ^ n := by exact_mod_cast hscaled
  cases n with
  | zero => exact ⟨by simpa using hwhole, by simp⟩
  | succ n =>
      rw [hwhole, pow_succ, ← Nat.mul_assoc, Nat.mul_mod_left] at hc
      exact absurd rfl hc

theorem coefficient_eq_zero {negative : Bool} {c : Nat} {p : Int}
    (h : signFactor negative * ((c : ℚ) * 10 ^ p) = 0) : c = 0 := by
  have hsign : signFactor negative ≠ 0 := by cases negative <;> simp [signFactor]
  have hpower : (10 : ℚ) ^ p ≠ 0 := zpow_ne_zero p (by norm_num)
  simpa [hsign, hpower] using h

/-- Numbers in the one form that they have are known by their rational numbers. -/
theorem eq_of_toRat? {k k' : NumberKey} (hk : k.Canonical) (hk' : k'.Canonical) {q : ℚ}
    (h : k.toRat? = some q) (h' : k'.toRat? = some q) : k = k' := by
  cases k with
  | infinite negative => cases h
  | finite negative c p =>
      cases k' with
      | infinite negative' => cases h'
      | finite negative' c' p' =>
          have heq : signFactor negative * ((c : ℚ) * 10 ^ p) =
              signFactor negative' * (c' * 10 ^ p') :=
            Option.some.inj (h.trans h'.symm)
          rcases hk with ⟨rfl, rfl, rfl⟩ | hc
          · have hzero : c' = 0 := coefficient_eq_zero (heq.symm.trans (by simp))
            rcases hk' with ⟨rfl, rfl, rfl⟩ | hc'
            · rfl
            · exact absurd (by rw [hzero]) hc'
          · rcases hk' with ⟨rfl, rfl, rfl⟩ | hc'
            · have hzero : c = 0 := coefficient_eq_zero (heq.trans (by simp))
              exact absurd (by rw [hzero]) hc
            · have hpos (n : Nat) (power : Int) (hn : n % 10 ≠ 0) : (0 : ℚ) < n * 10 ^ power :=
                mul_pos (by exact_mod_cast (by omega : 0 < n)) (zpow_pos (by norm_num) power)
              have hleft := hpos c p hc
              have hright := hpos c' p' hc'
              have hsign : negative = negative' := by
                cases negative <;> cases negative' <;> simp [signFactor] at heq ⊢ <;> linarith
              subst hsign
              have hmagnitude : (c : ℚ) * 10 ^ p = c' * 10 ^ p' := by
                cases negative <;> simpa [signFactor] using heq
              rcases le_total p p' with hle | hle
              · obtain ⟨rfl, rfl⟩ := eq_of_mul_pow_eq hc hle hmagnitude
                rfl
              · obtain ⟨rfl, rfl⟩ := eq_of_mul_pow_eq hc' hle hmagnitude.symm
                rfl

end NumberKey

namespace Value

theorem numberKey?_of_toRat? {v : Value} {q : ℚ} (h : v.toRat? = some q) :
    v.isNaN = false ∧ v.isSignaling = false ∧ ∃ k, v.numberKey? = some (some k) ∧ k.Canonical ∧
      k.toRat? = some q := by
  have hwhole (n : Int) : (NumberKey.ofInt n).toRat? = some (n : ℚ) := by
    rw [NumberKey.ofInt, NumberKey.toRat?_ofDecimal, Nat.cast_natAbs]
    by_cases hn : n < 0
    · simp [signFactor, hn, abs_of_neg hn]
    · simp [signFactor, hn, abs_of_nonneg (Int.not_lt.mp hn)]
  have hkey (n : Int) : (NumberKey.ofInt n).Canonical := NumberKey.canonical_ofDecimal _ _ _
  cases v with
  | bool b =>
      cases h
      exact ⟨rfl, rfl, _, rfl, hkey _, by rw [hwhole]; cases b <;> simp⟩
  | int n =>
      cases h
      exact ⟨rfl, rfl, _, rfl, hkey n, hwhole n⟩
  | member m =>
      obtain ⟨typeName, name, content⟩ := m
      cases content with
      | number n =>
          cases h
          exact ⟨rfl, rfl, _, rfl, hkey n, hwhole n⟩
      | _ => cases h
  | float x =>
      obtain ⟨k, hk, hrat⟩ := NumberKey.toRat?_ofBinary64? h
      cases x with
      | finite negative rank =>
          cases hk
          exact ⟨rfl, rfl, _, rfl, NumberKey.canonical_ofDecimal _ _ _, hrat⟩
      | _ => cases h
  | decimal d =>
      cases d with
      | finite negative coefficient exponent =>
          cases h
          exact ⟨rfl, rfl, _, rfl, NumberKey.canonical_ofDecimal _ _ _,
            NumberKey.toRat?_ofDecimal negative coefficient exponent⟩
      | _ => cases h
  | _ => cases h

/-- Numbers are equal exactly if they denote the same rational number, whatever their types are. -/
theorem equals_iff_of_toRat? {v w : Value} {x y : ℚ} (hv : v.toRat? = some x)
    (hw : w.toRat? = some y) : v.Equals w ↔ x = y := by
  obtain ⟨hnumber, hquiet, k, hkey, hk, hx⟩ := numberKey?_of_toRat? hv
  obtain ⟨-, hquiet', k', hkey', hk', hy⟩ := numberKey?_of_toRat? hw
  have hatoms : v.equal w = .ok (decide (k = k')) := by
    have hequal : v.equal w = equalAtoms v w := by
      cases v with
      | list xs => cases hv
      | tuple xs => cases hv
      | dict entries => cases hv
      | _ => rfl
    rw [hequal, equalAtoms, isSameNaN_of_not_isNaN hnumber, hkey, hkey']
    simp [hquiet, hquiet', Bool.beq_eq_decide_eq]
  rw [Equals, hatoms]
  constructor
  · rintro ⟨-, hsame⟩
    have hsame : k = k' := by simpa using hsame
    rw [hsame, hy] at hx
    exact (Option.some.inj hx).symm
  · rintro rfl
    simp [hnumber, NumberKey.eq_of_toRat? hk hk' hx hy]

end Value

end PagedTables
