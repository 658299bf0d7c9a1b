import Mathlib.Data.List.Basic
import PagedTables.Text.Split

/-!
# Pieces of texts

How the pieces of a text between separators go with joining. The pieces of joined texts are those of
each of them, and a text that holds no separator is its own single piece.
-/
namespace PagedTables.Text

variable {separator : Char}

theorem splitAt_of_notMem {cs : List Char} (h : separator ∉ cs) : splitAt separator cs = [cs] := by
  induction cs with
  | nil => rfl
  | cons c cs ih =>
      obtain ⟨hc, hcs⟩ := not_or.mp (List.mem_cons.not.mp h)
      rw [splitAt, if_neg (Ne.symm hc), ih hcs]

theorem splitAt_append (as bs : List Char) :
    splitAt separator (as ++ separator :: bs) = splitAt separator as ++ splitAt separator bs := by
  induction as with
  | nil => simp [splitAt]
  | cons a as ih =>
      by_cases ha : a = separator
      · rw [List.cons_append, splitAt, if_pos ha, splitAt, if_pos ha, ih, List.cons_append]
      · rw [List.cons_append, splitAt, if_neg ha, splitAt, if_neg ha, ih]
        cases hsplit : splitAt separator as with
        | nil => exact absurd hsplit (splitAt_ne_nil separator as)
        | cons piece pieces => rfl

/-- The pieces of joined texts are the pieces of each. -/
theorem splitAt_intercalate_eq_flatMap {texts : List (List Char)} (hne : texts ≠ []) :
    splitAt separator ([separator].intercalate texts) = texts.flatMap (splitAt separator) := by
  induction texts with
  | nil => exact absurd rfl hne
  | cons text texts ih =>
      cases texts with
      | nil => simp
      | cons next rest =>
          rw [List.intercalate_cons_cons, List.append_assoc, List.singleton_append, splitAt_append,
            ih (List.cons_ne_nil next rest), List.flatMap_cons (x := text)]

/-- Pieces that are joined by a separator that none of them holds are the pieces of the whole. -/
theorem splitAt_intercalate
    {pieces : List (List Char)} (hne : pieces ≠ []) (h : ∀ piece ∈ pieces, separator ∉ piece) :
    splitAt separator ([separator].intercalate pieces) = pieces := by
  have hpieces : ∀ piece ∈ pieces, splitAt separator piece = [piece] :=
    fun piece hpiece => splitAt_of_notMem (h piece hpiece)
  calc
    splitAt separator ([separator].intercalate pieces) = pieces.flatMap (splitAt separator) :=
      splitAt_intercalate_eq_flatMap hne
    _ = pieces.flatMap List.singleton := List.flatMap_congr hpieces
    _ = pieces := List.flatMap_singleton' pieces

theorem length_splitAt_eq_one_iff (cs : List Char) :
    (splitAt separator cs).length = 1 ↔ separator ∉ cs := by
  constructor
  · intro hone hmem
    obtain ⟨before, after, rfl⟩ := List.append_of_mem hmem
    have hbefore := List.length_pos_iff.mpr (splitAt_ne_nil separator before)
    have hafter := List.length_pos_iff.mpr (splitAt_ne_nil separator after)
    rw [splitAt_append, List.length_append] at hone
    omega
  · intro hfree
    rw [splitAt_of_notMem hfree]
    rfl

end PagedTables.Text
