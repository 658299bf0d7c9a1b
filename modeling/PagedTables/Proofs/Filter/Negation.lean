import PagedTables.Proofs.Filter.LiteralText
import PagedTables.Proofs.Filter.Reader
import PagedTables.Proofs.Number.Precision

/-!
# Negated constants

A number under a minus sign becomes the literal of the negated number. Which number a literal stands
for is said here by a reader of its text: digits with a sign, a point and a power of ten.

The literals of whole numbers and of finite decimals stand for these numbers with all their digits.
So the negation of a whole number is exact if it has not too many digits to be written at all. The
negation of a decimal is arithmetic, and exact just for the numbers of the working precision; the
others are rounded.
-/
namespace PagedTables

/-! ## The numbers of literals -/

/-- A text without the mark of a decimal behind it. -/
def dropMark (cs : List Char) : List Char :=
  if cs.getLast? = some 'M' then cs.dropLast else cs

/-- The number that a literal stands for. -/
def literalNumber? (text : String) : Option ℚ := do
  let (negative, cs) := Text.takeSign text.toList
  let (whole, fraction, power) ← readDecimalParts? (dropMark cs)
  some (signFactor negative *
    (Nat.ofDigitChars 10 (whole ++ fraction) 0 * 10 ^ (power - fraction.length)))

theorem readNat?_toDigits (n : Nat) : Text.readNat? (Nat.toDigits 10 n) = some n := by
  obtain ⟨hne, hdigits⟩ := isDigits_toDigits n
  have hall : (Nat.toDigits 10 n).all Char.isDigit = true := List.all_eq_true.mpr hdigits
  rw [Text.readNat?, hall, if_neg (by simp), Nat.ofDigitChars_ten_toDigits]

theorem isDigit_head_powerChars (power : Int) :
    ∀ c ∈ (powerChars power).head?, c.isDigit = false := by
  unfold powerChars
  split
  · simp
  · simp

theorem readPower?_powerChars (power : Int) : readPower? (powerChars power) = some power := by
  by_cases hpower : power = 0
  · rw [powerChars, if_pos hpower, readPower?, hpower]
  · rw [powerChars, if_neg hpower, readPower?, if_neg (by decide)]
    by_cases hnegative : power < 0
    · have hvalue : -(power.natAbs : Int) = power := by omega
      rw [if_pos hnegative, Text.takeSign]
      dsimp only
      rw [readNat?_toDigits]
      exact congrArg some hvalue
    · have hvalue : (power.natAbs : Int) = power := by omega
      rw [if_neg hnegative, Text.takeSign]
      dsimp only
      rw [readNat?_toDigits]
      exact congrArg some hvalue

theorem readDecimalParts?_append {whole fraction : List Char} (hwhole : IsDigits whole)
    (hfraction : ∀ c ∈ fraction, c.isDigit) (power : Int) :
    readDecimalParts? (whole ++ fractionChars fraction ++ powerChars power) =
      some (whole, fraction, power) := by
  have hpoint : ∀ c ∈ (fractionChars fraction ++ powerChars power).head?, c.isDigit = false := by
    unfold fractionChars
    split
    · exact isDigit_head_powerChars power
    · simp
  obtain ⟨htake, hdrop⟩ := takeWhile_dropWhile_append Char.isDigit whole _ hwhole.2 hpoint
  have hread : readFraction (fractionChars fraction ++ powerChars power) =
      (fraction, powerChars power) := by
    cases fraction with
    | nil =>
        by_cases hpower : power = 0
        · rw [powerChars, if_pos hpower]
          rfl
        · rw [powerChars, if_neg hpower]
          rfl
    | cons d ds =>
        obtain ⟨htake', hdrop'⟩ := takeWhile_dropWhile_append Char.isDigit (d :: ds) _ hfraction
          (isDigit_head_powerChars power)
        exact Prod.ext htake' hdrop'
  have hwholeEmpty : whole.isEmpty = false := by simpa using hwhole.1
  rw [readDecimalParts?, List.append_assoc, htake, hdrop, hread]
  simp [hwholeEmpty, readPower?_powerChars]

/-- Digits have no sign in front of them. -/
theorem takeSign_of_isDigits {ds rest : List Char} (h : IsDigits ds) :
    Text.takeSign (ds ++ rest) = (false, ds ++ rest) := by
  obtain ⟨hne, hdigits⟩ := h
  obtain ⟨d, ds, rfl⟩ := List.exists_cons_of_ne_nil hne
  have hd := hdigits d List.mem_cons_self
  rw [List.cons_append]
  unfold Text.takeSign
  split
  · next heq =>
      obtain rfl := (List.cons.inj heq).1
      exact absurd hd (by decide)
  · next heq =>
      obtain rfl := (List.cons.inj heq).1
      exact absurd hd (by decide)
  · rfl

theorem dropMark_append (cs : List Char) : dropMark (cs ++ ['M']) = cs := by
  rw [dropMark, List.getLast?_concat, if_pos rfl, List.dropLast_concat]

theorem dropMark_of_isDigits {ds : List Char} (h : IsDigits ds) : dropMark ds = ds := by
  rw [dropMark, if_neg]
  intro hlast
  exact absurd (h.2 'M' (List.mem_of_getLast? hlast)) (by decide)

/-- What a literal of a sign and digits stands for, up to its mark. -/
theorem literalNumber?_of_parts (negative : Bool) {whole fraction rest : List Char} {power : Int}
    (hwhole : IsDigits whole) (hfraction : ∀ c ∈ fraction, c.isDigit)
    (hrest : dropMark (whole ++ rest) = whole ++ fractionChars fraction ++ powerChars power)
    {text : String} (htext : text.toList = (if negative then ['-'] else []) ++ (whole ++ rest)) :
    literalNumber? text = some (signFactor negative *
      (Nat.ofDigitChars 10 (whole ++ fraction) 0 * 10 ^ (power - fraction.length))) := by
  have hsign : Text.takeSign text.toList = (negative, whole ++ rest) := by
    rw [htext]
    cases negative with
    | true => rfl
    | false =>
        rw [if_neg (by decide), List.nil_append]
        exact takeSign_of_isDigits hwhole
  rw [literalNumber?, hsign]
  dsimp only
  rw [hrest, readDecimalParts?_append hwhole hfraction]
  rfl

/-- The literal of a whole number stands for it. -/
theorem literalNumber?_ofInt (n : Int) : literalNumber? (Text.ofInt n) = some (n : ℚ) := by
  have hspelt (negative : Bool) (m : Nat) {text : String}
      (htext : text.toList = (if negative then ['-'] else []) ++ Nat.toDigits 10 m) :
      literalNumber? text = some (signFactor negative * m) := by
    have hdigits := isDigits_toDigits m
    have hrest : dropMark (Nat.toDigits 10 m ++ []) =
        Nat.toDigits 10 m ++ fractionChars [] ++ powerChars 0 := by
      rw [List.append_nil, dropMark_of_isDigits hdigits, List.append_assoc]
      exact (List.append_nil _).symm
    rw [← List.append_nil (Nat.toDigits 10 m)] at htext
    rw [literalNumber?_of_parts negative hdigits (by simp) hrest htext, List.append_nil,
      Nat.ofDigitChars_ten_toDigits]
    simp
  cases n with
  | ofNat m =>
      rw [hspelt false m (by simp [Text.ofInt])]
      simp [signFactor]
  | negSucc m =>
      rw [hspelt true (m + 1) (by simp [Text.ofInt])]
      simp [signFactor, Int.negSucc_eq]

/-- The literal of a decimal stands for it. -/
theorem literalNumber?_decimal (negative : Bool) (coefficient : Nat) (exponent : Int) :
    literalNumber? ((Decimal.finite negative coefficient exponent).toText ++ "M") =
      (Decimal.finite negative coefficient exponent).toRat? := by
  obtain ⟨whole, fraction, power, hwhole, hfraction, hvalue, hplace, htext⟩ :=
    magnitudeText_parts coefficient exponent
  have hrest : dropMark (whole ++ (fractionChars fraction ++ powerChars power ++ ['M'])) =
      whole ++ fractionChars fraction ++ powerChars power := by
    rw [← List.append_assoc, ← List.append_assoc, dropMark_append]
  have hsigned : ((Decimal.finite negative coefficient exponent).toText ++ "M").toList =
      (if negative then ['-'] else []) ++
        (whole ++ (fractionChars fraction ++ powerChars power ++ ['M'])) := by
    rw [Decimal.toText, String.toList_append, String.toList_append, htext]
    cases negative with
    | true => simp [Decimal.signText]
    | false => simp [Decimal.signText]
  rw [literalNumber?_of_parts negative hwhole hfraction hrest hsigned, hvalue, hplace]
  rfl

/-! ## Negations -/

namespace Expr

/-- The literal of the negation of a number is the one of the negated number. -/
theorem toTerm_negate_constant (schema : Schema) (clause : Clause) {v n : Value}
    (hn : v.negated? = some (.ok n)) :
    (unary .negate (constant v)).toTerm schema clause = (n.literalText clause).map .literal := by
  rw [toTerm, hn]

/-- There is a literal of the opposite of a whole number, unless it has too many digits. -/
theorem literalNumber?_negate_int (schema : Schema) (clause : Clause) (n : Int) :
    (n.natAbs < 10 ^ Text.maxIntegerDigits → ∃ text,
      (unary .negate (constant (.int n))).toTerm schema clause = .ok (.literal text) ∧
        literalNumber? text = some (-n : ℚ)) ∧
    (10 ^ Text.maxIntegerDigits ≤ n.natAbs →
      (unary .negate (constant (.int n))).toTerm schema clause = .error .tooLong) := by
  have hterm := toTerm_negate_constant schema clause
    (show (Value.int n).negated? = some (.ok (.int (-n))) from rfl)
  have hwritable : Text.isWritable (-n) = true ↔ n.natAbs < 10 ^ Text.maxIntegerDigits := by
    rw [Text.isWritable_iff, Int.natAbs_neg]
  constructor
  · intro hshort
    have hliteral : (Value.int (-n)).literal = .ok (.int (-n)) := if_pos (hwritable.mpr hshort)
    refine ⟨Text.ofInt (-n), ?_, by rw [literalNumber?_ofInt, Int.cast_neg]⟩
    rw [hterm, Value.literalText, hliteral]
    rfl
  · intro hlong
    have hliteral : (Value.int (-n)).literal = .error .tooLong :=
      if_neg fun h => absurd (hwritable.mp h) (Nat.not_lt.mpr hlong)
    rw [hterm, Value.literalText, hliteral]
    rfl

/-- The literal of the opposite of a decimal stands for what arithmetic makes of it. -/
theorem literalNumber?_negate_decimal (schema : Schema) (clause : Clause) {d n : Decimal}
    (hnegate : d.negate = .ok n) {q : ℚ} (hn : n.toRat? = some q) :
    ∃ text, (unary .negate (constant (.decimal d))).toTerm schema clause = .ok (.literal text) ∧
      literalNumber? text = some q := by
  cases n with
  | finite negative coefficient exponent =>
      have hnegated : (Value.decimal d).negated? =
          some (.ok (.decimal (.finite negative coefficient exponent))) := by
        rw [Value.negated?, hnegate]
        rfl
      exact ⟨_, toTerm_negate_constant schema clause hnegated,
        (literalNumber?_decimal negative coefficient exponent).trans hn⟩
  | infinite negative => cases hn
  | nan negative signaling payload origin => cases hn

/--
The literal of a negated whole number stands for its opposite, and there is one unless the number
has too many digits. That of a negated decimal stands for the opposite in the working precision,
which is the opposite itself exactly for the numbers of that precision; where rounding makes it too
large, there is no literal.
-/
theorem literalNumber?_negate (schema : Schema) (clause : Clause) :
    (∀ n : Int,
      (n.natAbs < 10 ^ Text.maxIntegerDigits → ∃ text,
        (unary .negate (constant (.int n))).toTerm schema clause = .ok (.literal text) ∧
          literalNumber? text = some (-n : ℚ)) ∧
      (10 ^ Text.maxIntegerDigits ≤ n.natAbs →
        (unary .negate (constant (.int n))).toTerm schema clause = .error .tooLong)) ∧
    ∀ (d : Decimal) (x : ℚ), d.toRat? = some x → ∃ q, Decimal.IsRounding (-x) q ∧
      (q = -x ↔ Decimal.IsWorking x) ∧
      (|q| < 10 ^ (Decimal.maxExponent + 1) → ∃ text,
        (unary .negate (constant (.decimal d))).toTerm schema clause = .ok (.literal text) ∧
          literalNumber? text = some q) ∧
      (10 ^ (Decimal.maxExponent + 1) ≤ |q| →
        (unary .negate (constant (.decimal d))).toTerm schema clause =
          .error (.arithmetic .overflow)) := by
  refine ⟨literalNumber?_negate_int schema clause, fun d x hx => ?_⟩
  obtain ⟨q, hrounding, hsmall, hlarge⟩ := Decimal.negate_spec hx
  refine ⟨q, hrounding, ?_, ?_, ?_⟩
  · rw [hrounding.eq_iff]
    exact ⟨fun h => neg_neg x ▸ h.neg, Decimal.IsWorking.neg⟩
  · intro hq
    obtain ⟨n, hnegate, hn⟩ := hsmall hq
    exact literalNumber?_negate_decimal schema clause hnegate hn
  · intro hq
    rw [toTerm, Value.negated?, hlarge hq]
    rfl

theorem literalNumber?_negate_price :
    (Decimal.finite false 150 (-2)).toRat? = some (3 / 2) ∧ Decimal.IsWorking (3 / 2) ∧
      |(-(3 / 2) : ℚ)| < 10 ^ (Decimal.maxExponent + 1) ∧
      ∃ text, (unary .negate (constant (.decimal (.finite false 150 (-2))))).toTerm
          (.untyped .camelCase) Clause.filter = .ok (.literal text) ∧
        literalNumber? text = some (-(3 / 2)) := by
  have hvalue : (Decimal.finite false 150 (-2)).toRat? = some (3 / 2) := by
    norm_num [Decimal.toRat?, signFactor]
  have hworking : Decimal.IsWorking (3 / 2) := ⟨15, -1, by decide, by decide, by norm_num⟩
  have hbound : |(-(3 / 2) : ℚ)| < 10 ^ (Decimal.maxExponent + 1) := by
    calc
      |(-(3 / 2) : ℚ)| < 10 ^ (1 : ℤ) := by norm_num [abs_of_pos]
      _ ≤ 10 ^ (Decimal.maxExponent + 1) := zpow_le_zpow_right₀ (by norm_num) (by decide)
  obtain ⟨q, -, hexact, hsmall, -⟩ :=
    (literalNumber?_negate (.untyped .camelCase) Clause.filter).2 _ _ hvalue
  obtain rfl := hexact.mpr hworking
  exact ⟨hvalue, hworking, hbound, hsmall hbound⟩

/-- A decimal of one digit more than the working precision. -/
def longDecimal : Decimal :=
  .finite false (10 ^ 28 + 1) 0

/-- The literal of the negated long decimal stands for a number that ends in a zero. -/
theorem literalNumber?_negate_longDecimal :
    longDecimal.toRat? = some (10 ^ 28 + 1) ∧
      (unary .negate (constant (.decimal longDecimal))).filterText (.untyped .camelCase) =
        .ok "-1.000000000000000000000000000E+28M" ∧
      literalNumber? "-1.000000000000000000000000000E+28M" = some (-10 ^ 28) ∧
      (-10 ^ 28 : ℚ) ≠ -(10 ^ 28 + 1) := by
  refine ⟨?_, ?_, ?_, ?_⟩
  · rw [longDecimal, Decimal.toRat?, signFactor, if_neg (by decide), zpow_zero]
    norm_num
  · rfl
  · have htext : "-1.000000000000000000000000000E+28M" =
        (Decimal.finite true (10 ^ 27) 1).toText ++ "M" := rfl
    rw [htext, literalNumber?_decimal, Decimal.toRat?]
    norm_num [signFactor]
  · norm_num

end Expr

end PagedTables
