import Mathlib.Data.List.Basic
import PagedTables.Text.Case

/-!
# Words in lower case

Which texts have a given word of small letters for their lower case. They are the ones that spell it
in whatever case of its letters, since no character outside of ASCII has one of these letters for
its lower case. The letter k is left out, as it is the lower case of the sign for kelvins too.
-/
namespace PagedTables.Text

/-- A small letter of ASCII that is the lower case of no character but itself and its capital. -/
def isPlainSmall (c : Char) : Bool :=
  97 ≤ c.toNat && c.toNat ≤ 122 && c.toNat ≠ 107

theorem isPlainSmall_eq_false {c : Char} (h : c.toNat = 0 ∨ c.toNat = 107 ∨ 128 ≤ c.toNat) :
    isPlainSmall c = false := by
  rw [isPlainSmall, Bool.eq_false_iff]
  simp only [ne_eq, Bool.and_eq_true, decide_eq_true_eq]
  omega

/-- The runs of the table keep out of ASCII, but for the sign for kelvins. -/
theorem lowerRuns_keep : ∀ run ∈ CaseTable.lowerRuns,
    128 ≤ (run.1 : Int) + run.2.2.2 ∨
      run.1 = 0x212A ∧ run.2.1 = 0x212A ∧ (run.1 : Int) + run.2.2.2 = 107 := by
  decide +kernel

theorem runImage?_lowerRuns {n m : Nat} (h : runImage? CaseTable.lowerRuns n = some m) :
    m = 107 ∨ 128 ≤ m := by
  obtain ⟨run, hrun, rfl⟩ := Option.map_eq_some_iff.mp h
  have hkeep := lowerRuns_keep _ (List.mem_of_find?_eq_some hrun)
  have hwithin := List.find?_some hrun
  obtain ⟨first, last, step, shift⟩ := run
  simp only [Bool.and_eq_true, decide_eq_true_eq] at hwithin hkeep
  dsimp only
  omega

theorem toNat_ofNat_cases (m : Nat) : (Char.ofNat m).toNat = m ∨ (Char.ofNat m).toNat = 0 := by
  by_cases hvalid : m.isValidChar
  · exact .inl (congrArg Char.toNat (dif_pos hvalid))
  · exact .inr (congrArg Char.toNat (dif_neg hvalid))

/-- A character outside of ASCII has a character in its lower case that is no plain small letter. -/
theorem exists_of_not_ascii {c : Char} (h : ¬c.toNat < 0x80) :
    ∃ d ∈ lowerChar c, isPlainSmall d = false := by
  rw [lowerChar, if_neg h]
  split
  · exact ⟨_, List.mem_cons_of_mem _ List.mem_cons_self, by decide⟩
  · refine ⟨_, List.mem_cons_self, isPlainSmall_eq_false ?_⟩
    cases hrun : runImage? CaseTable.lowerRuns c.toNat with
    | none =>
        rw [Option.map_none, Option.getD_none]
        omega
    | some m =>
        rw [Option.map_some, Option.getD_some]
        have hm := runImage?_lowerRuns hrun
        have hchar := toNat_ofNat_cases m
        omega

theorem toLower_of_not_ascii {c : Char} (h : ¬c.toNat < 0x80) : c.toLower = c := by
  have hcapital : ¬(c.val ≥ 'A'.val ∧ c.val ≤ 'Z'.val) := by
    rintro ⟨-, hlast⟩
    have hle : c.toNat ≤ 'Z'.toNat := hlast
    exact h (Nat.lt_of_le_of_lt hle (by decide))
  exact dif_neg hcapital

/-- A word of plain small letters is the lower case of what spells it in any case. -/
theorem lowerAfter_eq_iff {word : List Char} (hword : ∀ c ∈ word, isPlainSmall c = true)
    (before cs : List Char) : lowerAfter before cs = word ↔ cs.map Char.toLower = word := by
  induction cs generalizing before word with
  | nil => rfl
  | cons c rest ih =>
      by_cases hascii : c.toNat < 0x80
      · have himage :
            lowerAfter before (c :: rest) = c.toLower :: lowerAfter (c :: before) rest := by
          rw [lowerAfter, if_neg (by omega), lowerChar, if_pos hascii]
          rfl
        rw [himage, List.map_cons]
        cases word with
        | nil => simp
        | cons first word =>
            rw [List.cons.injEq, List.cons.injEq, ih (List.forall_mem_cons.mp hword).2]
      · refine iff_of_false (fun hlower => ?_) (fun hspelled => ?_)
        · obtain ⟨d, hd, hsmall⟩ : ∃ d ∈ lowerAfter before (c :: rest), isPlainSmall d = false := by
            rw [lowerAfter]
            split
            · refine ⟨_, List.mem_append_left _ List.mem_cons_self, ?_⟩
              split <;> decide
            · obtain ⟨d, hd, hsmall⟩ := exists_of_not_ascii hascii
              exact ⟨d, List.mem_append_left _ hd, hsmall⟩
          rw [hword d (hlower ▸ hd)] at hsmall
          cases hsmall
        · have hsmall := hword c.toLower (hspelled ▸ List.mem_cons_self)
          rw [toLower_of_not_ascii hascii, isPlainSmall_eq_false (by omega)] at hsmall
          cases hsmall

theorem lower_eq_iff {word : String} (hword : ∀ c ∈ word.toList, isPlainSmall c = true)
    (s : String) : lower s = word ↔ s.toList.map Char.toLower = word.toList := by
  rw [lower, ← String.toList_inj, String.toList_ofList]
  exact lowerAfter_eq_iff hword [] s.toList

end PagedTables.Text
