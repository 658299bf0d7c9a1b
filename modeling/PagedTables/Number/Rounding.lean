/-!
# Rounding of quotients

The nearest whole number to a quotient of natural numbers, a half going to the even neighbour.
Binary and decimal arithmetic both round by it.
-/
namespace PagedTables

/-- The whole number nearest to `n / d`; of two equally near ones the even one. -/
def roundHalfEven (n d : Nat) : Nat :=
  let q := n / d
  let r := n % d
  if 2 * r < d then q
  else if d < 2 * r then q + 1
  else if q % 2 = 0 then q
  else q + 1

/-- A whole number is its own nearest one. -/
theorem roundHalfEven_mul_right (q d : Nat) (hd : 0 < d) : roundHalfEven (q * d) d = q := by
  simp [roundHalfEven, Nat.mul_div_cancel q hd, Nat.mul_mod_left, hd]

/-- The nearest whole number is at most one half away. -/
theorem roundHalfEven_near (n d : Nat) (hd : 0 < d) :
    2 * (roundHalfEven n d * d) ≤ 2 * n + d ∧ 2 * n ≤ 2 * (roundHalfEven n d * d) + d := by
  have hsplit := Nat.div_add_mod n d
  have hcomm : d * (n / d) = n / d * d := Nat.mul_comm _ _
  have hlt := Nat.mod_lt n hd
  have hsucc : (n / d + 1) * d = n / d * d + d := Nat.succ_mul _ _
  simp only [roundHalfEven]
  split
  · omega
  · split
    · omega
    · split <;> omega

end PagedTables
