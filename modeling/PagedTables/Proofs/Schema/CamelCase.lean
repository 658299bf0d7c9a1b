import Mathlib
import PagedTables.Proofs.Text.Split
import PagedTables.Schema.Naming

/-!
# Names in camel case

The camel-case policy, character by character, on names of ASCII. A name that starts with an
underscore stays as it is. Any other loses its underscores: its first character becomes a small
letter, each one that directly follows an underscore a capital, and all others stay.

So a name in camel case holds an underscore only if it starts with one, and the policy does not
change it any further. It can be applied to names that are at the service already.
-/
namespace PagedTables

/-- The characters of a text, each with the one before it; `before` is the one before them all. -/
def preceded (before : Option Char) (cs : List Char) : List (Option Char × Char) :=
  (before :: cs.map some).zip cs

/-- A character in camel case, by the one before it: a small letter comes first, and a capital
directly after an underscore. -/
def inCamelCase : Option Char × Char → Char
  | (none, c) => c.toLower
  | (some before, c) => if before = '_' then c.toUpper else c

/-- The characters other than underscores, each of them in camel case. -/
def runTogether (before : Option Char) (cs : List Char) : List Char :=
  ((preceded before cs).filter (·.2 ≠ '_')).map inCamelCase

/-! ## Letter case in ASCII -/

namespace Text

theorem toNat_toLower_lt {c : Char} (hc : c.toNat < 0x80) : c.toLower.toNat < 0x80 := by
  have hall : ∀ n < 0x80, (Char.ofNat n).toLower.toNat < 0x80 := by decide
  rw [← c.ofNat_toNat]
  exact hall _ hc

/-- Only letters are the small letter of another character. -/
theorem eq_of_toLower_eq {c d : Char} (hd : d.isAlpha = false) (h : c.toLower = d) : c = d := by
  have halpha : c.isAlpha = false := by rw [← Char.isAlpha_toLower_eq_isAlpha, h, hd]
  have hupper : c.isUpper = false := (Bool.or_eq_false_iff.mp halpha).1
  rw [← h, Char.toLower_eq_of_not_isUpper (Bool.eq_false_iff.mp hupper)]

theorem eq_of_toUpper_eq {c d : Char} (hd : d.isAlpha = false) (h : c.toUpper = d) : c = d := by
  have halpha : c.isAlpha = false := by rw [← Char.isAlpha_toUpper_eq_isAlpha, h, hd]
  have hlower : c.isLower = false := (Bool.or_eq_false_iff.mp halpha).2
  rw [← h, Char.toUpper_eq_of_not_isLower (Bool.eq_false_iff.mp hlower)]

end Text

theorem capitalize_cons {c : Char} (hc : c.toNat < 0x80) (rest : List Char) :
    capitalize (c :: rest) = c.toUpper :: rest := by
  simp [capitalize, Text.upperChar, hc]

theorem decapitalize_cons {c : Char} (hc : c.toNat < 0x80) (rest : List Char) :
    decapitalize (c :: rest) = c.toLower :: rest := by
  simp [decapitalize, Text.lowerChar, hc]

theorem inCamelCase_ne_underscore {before : Option Char} {c : Char} (hc : c ≠ '_') :
    inCamelCase (before, c) ≠ '_' := by
  have hunder : '_'.isAlpha = false := by decide
  intro h
  apply hc
  rcases before with _ | before
  · exact Text.eq_of_toLower_eq hunder h
  · rw [inCamelCase] at h
    split at h
    · exact Text.eq_of_toUpper_eq hunder h
    · exact h

/-! ## Words that are run together -/

theorem runTogether_underscore (before : Option Char) (rest : List Char) :
    runTogether before ('_' :: rest) = runTogether (some '_') rest := by
  simp [runTogether, preceded]

theorem runTogether_cons {c : Char} (hc : c ≠ '_') (before : Option Char) (rest : List Char) :
    runTogether before (c :: rest) = inCamelCase (before, c) :: runTogether (some c) rest := by
  simp [runTogether, preceded, hc]

theorem underscore_notMem_runTogether (before : Option Char) (cs : List Char) :
    '_' ∉ runTogether before cs := by
  intro hmem
  obtain ⟨⟨previous, c⟩, hpair, h⟩ := List.mem_map.mp hmem
  have hc : c ≠ '_' := by simpa using (List.mem_filter.mp hpair).2
  exact inCamelCase_ne_underscore hc h

/--
The words of a text give its characters in camel case. All words have a capital at their start if
the text comes after an underscore, and all but the first if it comes after another character.
-/
theorem exists_words {cs : List Char} (hascii : ∀ c ∈ cs, c.toNat < 0x80) :
    ∃ head words, Text.splitAt '_' cs = head :: words ∧
      (head :: words).flatMap capitalize = runTogether (some '_') cs ∧
      ∀ before, before ≠ '_' →
        head ++ words.flatMap capitalize = runTogether (some before) cs := by
  -- Each of the two forms leads to the other: an underscore ends a word, and any other character
  -- is followed by the rest of its word.
  induction cs with
  | nil =>
      refine ⟨[], [], ?_⟩
      simp [Text.splitAt, capitalize, runTogether, preceded]
  | cons c rest ih =>
      obtain ⟨hc, hrest⟩ := List.forall_mem_cons.mp hascii
      obtain ⟨head, words, hsplit, hcapital, hplain⟩ := ih hrest
      by_cases hunder : c = '_'
      · subst hunder
        refine ⟨[], head :: words, ?_, ?_, ?_⟩
        · rw [Text.splitAt, if_pos rfl, hsplit]
        · rw [runTogether_underscore, ← hcapital, List.flatMap_cons, capitalize, List.nil_append]
        · intro before hbefore
          rw [runTogether_underscore, ← hcapital, List.nil_append]
      · refine ⟨c :: head, words, ?_, ?_, ?_⟩
        · rw [Text.splitAt, if_neg hunder, hsplit]
        · rw [runTogether_cons hunder, ← hplain c hunder, List.flatMap_cons, capitalize_cons hc,
            inCamelCase, if_pos rfl, List.cons_append]
        · intro before hbefore
          rw [runTogether_cons hunder, ← hplain c hunder, inCamelCase, if_neg hbefore,
            List.cons_append]

/-! ## Whole names -/

theorem camelCaseChars_underscore (rest : List Char) :
    camelCaseChars ('_' :: rest) = '_' :: rest := by
  simp [camelCaseChars, Text.splitAt]

theorem camelCaseChars_eq_runTogether {name : List Char} (hascii : ∀ c ∈ name, c.toNat < 0x80)
    (hhead : name.head? ≠ some '_') : camelCaseChars name = runTogether none name := by
  cases name with
  | nil => rfl
  | cons c rest =>
      obtain ⟨hc, hrest⟩ := List.forall_mem_cons.mp hascii
      have hunder : c ≠ '_' := by simpa using hhead
      obtain ⟨head, words, hsplit, -, hplain⟩ := exists_words hrest
      calc
        camelCaseChars (c :: rest) = decapitalize (c :: head) ++ words.flatMap capitalize := by
          simp [camelCaseChars, Text.splitAt, hunder, hsplit]
        _ = c.toLower :: (head ++ words.flatMap capitalize) := by
          rw [decapitalize_cons hc, List.cons_append]
        _ = c.toLower :: runTogether (some c) rest := by rw [hplain c hunder]
        _ = runTogether none (c :: rest) := by rw [runTogether_cons hunder, inCamelCase]

/-- A name of one word only loses the capital at its start. -/
theorem camelCaseChars_of_notMem {name : List Char} (h : '_' ∉ name) :
    camelCaseChars name = decapitalize name := by
  rw [camelCaseChars, Text.splitAt_of_notMem h]
  cases name with
  | nil => rfl
  | cons c rest => simp

theorem camelCaseChars_runTogether {name : List Char} (hascii : ∀ c ∈ name, c.toNat < 0x80)
    (hhead : name.head? ≠ some '_') :
    camelCaseChars (runTogether none name) = runTogether none name := by
  rw [camelCaseChars_of_notMem (underscore_notMem_runTogether none name)]
  cases name with
  | nil => rfl
  | cons c rest =>
      have hc : c.toNat < 0x80 := hascii c List.mem_cons_self
      have hunder : c ≠ '_' := by simpa using hhead
      rw [runTogether_cons hunder, inCamelCase, decapitalize_cons (Text.toNat_toLower_lt hc),
        Char.toLower_toLower_eq_toLower]

theorem toList_camelCase (name : String) :
    (camelCase name).toList = camelCaseChars name.toList := by
  rw [camelCase, String.toList_ofList]

/--
The camel-case form of a name of ASCII is its own camel-case form. It has an underscore exactly if
the name starts with one, and is then the name itself. Otherwise it consists of the other characters
of the name, the first as a small letter and each one directly after an underscore as a capital.
-/
theorem camelCase_of_isAscii {name : String} (hname : Text.isAscii name.toList = true) :
    camelCase (camelCase name) = camelCase name ∧
      ('_' ∈ (camelCase name).toList ↔ name.toList.head? = some '_') ∧
      (name.toList.head? = some '_' → camelCase name = name) ∧
      (name.toList.head? ≠ some '_' →
        (camelCase name).toList = runTogether none name.toList) := by
  have hascii : ∀ c ∈ name.toList, c.toNat < 0x80 := by simpa [Text.isAscii] using hname
  by_cases hhead : name.toList.head? = some '_'
  · have hself : camelCase name = name := by
      obtain ⟨rest, hrest⟩ := List.head?_eq_some_iff.mp hhead
      rw [← String.toList_inj, toList_camelCase, hrest, camelCaseChars_underscore]
    rw [hself]
    refine ⟨hself, ?_, ?_, ?_⟩
    · exact iff_of_true (List.mem_of_head? hhead) hhead
    · intro _
      rfl
    · intro hother
      exact absurd hhead hother
  · have hform : (camelCase name).toList = runTogether none name.toList := by
      rw [toList_camelCase, camelCaseChars_eq_runTogether hascii hhead]
    refine ⟨?_, ?_, ?_, ?_⟩
    · rw [← String.toList_inj, toList_camelCase, hform, camelCaseChars_runTogether hascii hhead]
    · rw [hform]
      exact iff_of_false (underscore_notMem_runTogether none _) hhead
    · intro hunder
      exact absurd hunder hhead
    · intro _
      exact hform

theorem camelCase_of_isAscii_reRelease :
    Text.isAscii "Re_release__2nd_cut_".toList = true ∧
      camelCase "Re_release__2nd_cut_" = "reRelease2ndCut" ∧
      camelCase "reRelease2ndCut" = "reRelease2ndCut" := by
  have hascii : Text.isAscii "Re_release__2nd_cut_".toList = true := by decide
  obtain ⟨hagain, -, -, hform⟩ := camelCase_of_isAscii hascii
  have hcamel : camelCase "Re_release__2nd_cut_" = "reRelease2ndCut" := by
    rw [← String.toList_inj, hform (by decide)]
    decide
  rw [hcamel] at hagain
  exact ⟨hascii, hcamel, hagain⟩

end PagedTables
