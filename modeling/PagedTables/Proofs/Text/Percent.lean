import PagedTables.Text.Percent

/-!
# Percent encoding can be undone

Decoding an encoded text gives the text back, whatever characters are in it, also ones that look
like escapes. The encoding is made of characters that stand for themselves and of whole escapes, so
no separator of query strings occurs in it, and it is made character by character: texts are encoded
one after the other as they are encoded together.
-/
namespace PagedTables.Text

/-- A capital hexadecimal digit has the value that it was written for. -/
theorem hexValue?_digitChar (n : Nat) (hn : n < 16) :
    hexValue? (Nat.digitChar n).toUpper = some n := by
  have hall : ∀ n < 16, hexValue? (Nat.digitChar n).toUpper = some n := by decide
  exact hall n hn

theorem isPlain_digitChar (n : Nat) (hn : n < 16) : isPlain (Nat.digitChar n).toUpper = true := by
  have hall : ∀ n < 16, isPlain (Nat.digitChar n).toUpper = true := by decide
  exact hall n hn

/-- A byte is written as its two hexadecimal digits. -/
theorem percentByte_eq (b : UInt8) :
    percentByte b = ['%', (Nat.digitChar (b.toNat / 16)).toUpper,
      (Nat.digitChar (b.toNat % 16)).toUpper] := by
  have hb : b.toNat < 256 := b.toNat_lt
  have hhigh : b.toNat / 16 < 16 := by omega
  rw [percentByte, paddedIn]
  by_cases hsmall : b.toNat < 16
  · have hzero : b.toNat / 16 = 0 := by omega
    have hself : b.toNat % 16 = b.toNat := Nat.mod_eq_of_lt hsmall
    rw [Nat.toDigits_of_lt_base hsmall, hzero, hself]
    rfl
  · rw [Nat.toDigits_of_base_le (by omega) (by omega), Nat.toDigits_of_lt_base hhigh]
    rfl

theorem percentBytes?_percentByte (b : UInt8) (rest : List Char) :
    percentBytes? (percentByte b ++ rest) = (percentBytes? rest).map (b :: ·) := by
  have hb : b.toNat < 256 := b.toNat_lt
  have hword : UInt8.ofNat (16 * (b.toNat / 16) + b.toNat % 16) = b := by
    rw [Nat.div_add_mod]
    exact UInt8.ofNat_toNat
  rw [percentByte_eq, List.cons_append, List.cons_append, List.cons_append, List.nil_append,
    percentBytes?, hexValue?_digitChar _ (by omega), hexValue?_digitChar _ (by omega)]
  cases percentBytes? rest with
  | none => rfl
  | some bytes => exact congrArg (fun b => some (b :: bytes)) hword

theorem percentBytes?_flatMap_percentByte (bs : List UInt8) (rest : List Char) :
    percentBytes? (bs.flatMap percentByte ++ rest) = (percentBytes? rest).map (bs ++ ·) := by
  induction bs with
  | nil => simp
  | cons b bs ih =>
      rw [List.flatMap_cons, List.append_assoc, percentBytes?_percentByte, ih, Option.map_map]
      rfl

/-- The encoding of a character stands for the bytes of its UTF-8 form. -/
theorem percentBytes?_percentChar (c : Char) (rest : List Char) :
    percentBytes? (percentChar c ++ rest) =
      (percentBytes? rest).map (String.utf8EncodeChar c ++ ·) := by
  rw [percentChar]
  split
  · next hplain =>
      have hpercent : c ≠ '%' := by
        rintro rfl
        exact absurd hplain (by decide)
      rw [List.singleton_append, percentBytes?, if_neg hpercent]
      rintro - - - hc -
      exact hpercent hc
  · exact percentBytes?_flatMap_percentByte _ _

theorem percentBytes?_flatMap_percentChar (cs : List Char) :
    percentBytes? (cs.flatMap percentChar) = some (cs.flatMap String.utf8EncodeChar) := by
  induction cs with
  | nil => rfl
  | cons c cs ih =>
      rw [List.flatMap_cons, percentBytes?_percentChar, ih, List.flatMap_cons]
      rfl

/-- Decoding an encoded text gives the text. -/
theorem percentDecode?_percentEncode (s : String) : percentDecode? (percentEncode s) = some s := by
  have hbytes : (⟨(s.toList.flatMap String.utf8EncodeChar).toArray⟩ : ByteArray) =
      s.toByteArray := by
    rw [← String.utf8Encode_toList, List.utf8Encode]
    exact ByteArray.ext List.data_toByteArray.symm
  rw [percentDecode?, percentEncode, String.toList_ofList, percentBytes?_flatMap_percentChar]
  simp only [Option.bind_eq_bind, Option.bind_some, hbytes]
  rw [String.fromUTF8?, dif_pos s.isValidUTF8]
  rfl

/-- An encoded text is made of characters that need no encoding and of percent signs. -/
theorem isPlain_of_mem_percentEncode
    {s : String} {c : Char} (hc : c ∈ (percentEncode s).toList) : isPlain c = true ∨ c = '%' := by
  rw [percentEncode, String.toList_ofList, List.mem_flatMap] at hc
  obtain ⟨original, -, hc⟩ := hc
  rw [percentChar] at hc
  split at hc
  · next hplain =>
      rw [List.mem_singleton.mp hc]
      exact .inl hplain
  · obtain ⟨b, -, hc⟩ := List.mem_flatMap.mp hc
    have hb : b.toNat < 256 := b.toNat_lt
    rw [percentByte_eq] at hc
    simp only [List.mem_cons, List.not_mem_nil, or_false] at hc
    obtain rfl | rfl | rfl := hc
    · exact .inr rfl
    · exact .inl (isPlain_digitChar _ (by omega))
    · exact .inl (isPlain_digitChar _ (by omega))

/-! ## Encoded texts -/

/-- A hexadecimal digit whose letters are capitals. -/
def isCapitalHex (c : Char) : Bool :=
  c.isDigit || ['A', 'B', 'C', 'D', 'E', 'F'].contains c

/-- Letters and digits of ASCII, the marks that are kept, and escapes of two digits each. -/
inductive IsEncoded : List Char → Prop
  | nil : IsEncoded []
  | kept {c : Char} {cs : List Char}
      (h : c.isAlphanum ∨ c ∈ ['-', '.', '_', '~', '\'', '(', ')', '*', '!', ','])
      (rest : IsEncoded cs) : IsEncoded (c :: cs)
  | escape {high low : Char} {cs : List Char} (hhigh : isCapitalHex high) (hlow : isCapitalHex low)
      (rest : IsEncoded cs) : IsEncoded ('%' :: high :: low :: cs)

/-- Characters that separate the parts of a query string or of an address, and the space. -/
def separators : List Char :=
  ['&', '=', '#', '?', '+', '/', ' ']

theorem isCapitalHex_digitChar (n : Nat) (hn : n < 16) :
    isCapitalHex (Nat.digitChar n).toUpper := by
  have hall : ∀ n < 16, isCapitalHex (Nat.digitChar n).toUpper := by decide
  exact hall n hn

theorem isEncoded_flatMap_percentByte {cs : List Char} (h : IsEncoded cs) (bs : List UInt8) :
    IsEncoded (bs.flatMap percentByte ++ cs) := by
  induction bs with
  | nil => exact h
  | cons b bs ih =>
      have hb : b.toNat < 256 := b.toNat_lt
      rw [List.flatMap_cons, List.append_assoc, percentByte_eq]
      apply IsEncoded.escape
      · exact isCapitalHex_digitChar _ (by omega)
      · exact isCapitalHex_digitChar _ (by omega)
      · exact ih

theorem isEncoded_percentChar {cs : List Char} (h : IsEncoded cs) (c : Char) :
    IsEncoded (percentChar c ++ cs) := by
  rw [percentChar]
  by_cases hplain : isPlain c = true
  · rw [if_pos hplain]
    have hkept : c.isAlphanum ∨ c ∈ plainMarks := by simpa [isPlain] using hplain
    exact .kept hkept h
  · rw [if_neg hplain]
    exact isEncoded_flatMap_percentByte h _

/-- The encoding of any text is made of kept characters and whole escapes. -/
theorem isEncoded_percentEncode (s : String) : IsEncoded (percentEncode s).toList := by
  have hall : ∀ cs : List Char, IsEncoded (cs.flatMap percentChar) := by
    intro cs
    induction cs with
    | nil => exact .nil
    | cons c cs ih =>
        rw [List.flatMap_cons]
        exact isEncoded_percentChar ih c
  rw [percentEncode, String.toList_ofList]
  exact hall s.toList

theorem notMem_separators_of_isCapitalHex {c : Char} (h : isCapitalHex c) : c ∉ separators := by
  have hall : separators.all (!isCapitalHex ·) := by decide
  intro hc
  have hnot := List.all_eq_true.mp hall c hc
  rw [h] at hnot
  exact absurd hnot (by decide)

/-- The characters that are kept are no separators. -/
theorem notMem_separators_of_kept {c : Char}
    (h : c.isAlphanum ∨ c ∈ ['-', '.', '_', '~', '\'', '(', ')', '*', '!', ',']) :
    c ∉ separators := by
  have hall : separators.all fun d => !(d.isAlphanum ||
      ['-', '.', '_', '~', '\'', '(', ')', '*', '!', ','].contains d) := by decide
  intro hc
  have hnot := List.all_eq_true.mp hall c hc
  have hkept : (c.isAlphanum ||
      ['-', '.', '_', '~', '\'', '(', ')', '*', '!', ','].contains c) = true := by
    rw [Bool.or_eq_true, List.contains_iff_mem]
    exact h
  rw [hkept] at hnot
  exact absurd hnot (by decide)

theorem IsEncoded.notMem_separators {cs : List Char} (h : IsEncoded cs) :
    ∀ c ∈ cs, c ∉ separators := by
  have hpercent : '%' ∉ separators := by decide
  induction h with
  | nil => simp
  | kept h rest ih => exact List.forall_mem_cons.mpr ⟨notMem_separators_of_kept h, ih⟩
  | escape hhigh hlow rest ih =>
      rw [List.forall_mem_cons, List.forall_mem_cons, List.forall_mem_cons]
      exact ⟨hpercent, notMem_separators_of_isCapitalHex hhigh,
        notMem_separators_of_isCapitalHex hlow, ih⟩

theorem percentEncode_append (s t : String) :
    percentEncode (s ++ t) = percentEncode s ++ percentEncode t := by
  rw [percentEncode, String.toList_append, List.flatMap_append, String.ofList_append]
  rfl

/--
Decoding undoes encoding, and an encoded text holds no separator. So two texts have one encoding
only if they are the same, and the encoding of two texts in a row is that of the one after that of
the other.
-/
theorem percentEncode_lossless (s : String) :
    percentDecode? (percentEncode s) = some s ∧
      IsEncoded (percentEncode s).toList ∧
      (∀ c ∈ (percentEncode s).toList, c ∉ separators) ∧
      (∀ t, percentEncode s = percentEncode t → s = t) ∧
      ∀ t, percentEncode (s ++ t) = percentEncode s ++ percentEncode t := by
  refine ⟨percentDecode?_percentEncode s, isEncoded_percentEncode s,
    (isEncoded_percentEncode s).notMem_separators, ?_, percentEncode_append s⟩
  intro t h
  have hdecoded : some s = some t := by
    rw [← percentDecode?_percentEncode s, ← percentDecode?_percentEncode t, h]
  exact Option.some.inj hdecoded

end PagedTables.Text
