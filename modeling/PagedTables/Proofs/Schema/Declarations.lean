import PagedTables.Proofs.Result
import PagedTables.Schema.Basic

/-!
# Fields that are declared as texts

What a field is declared as is told by its own declaration, read for itself. A schema goes by the
declarations of all fields: it reads them one after the other, and where one of them has no meaning
it goes by how they are written. The main result says when both come to the same.
-/
namespace PagedTables

open TypeText (Meaning Reading)

/-! ## Meanings that are texts -/

/-- The type of texts, or an alternative of that type and the type of null alone. -/
inductive TypeText.Meaning.IsText : Meaning → Prop
  | plain : IsText (.named "str")
  | anyOf {members : List Meaning}
      (h : members.filter (fun m => !m.same .nullType) = [.named "str"]) : IsText (.anyOf members)
  | barred {members : List Meaning}
      (h : members.filter (fun m => !m.same .nullType) = [.named "str"]) : IsText (.barred members)

theorem TypeText.Meaning.onlyText_iff (members : List Meaning) :
    isString.onlyText members = true ↔
      members.filter (fun m => !m.same .nullType) = [.named "str"] := by
  rw [isString.onlyText]
  split
  · next name hname => simp [hname]
  · next hother =>
      refine iff_of_false (by simp) fun h => ?_
      exact hother "str" h

theorem TypeText.Meaning.isString_iff (m : Meaning) : m.isString = true ↔ m.IsText := by
  constructor
  · intro h
    unfold isString at h
    split at h
    · next name =>
        have hname : name = "str" := by simpa using h
        rw [hname]
        exact .plain
    · exact .anyOf ((onlyText_iff _).mp h)
    · exact .barred ((onlyText_iff _).mp h)
    · cases h
  · intro h
    cases h with
    | plain => rfl
    | anyOf h => exact (onlyText_iff _).mpr h
    | barred h => exact (onlyText_iff _).mpr h

/-! ## Readings that bind nothing -/

namespace TypeText

variable {α β : Type}

/-- Where nothing is bound, the step binds nothing. -/
def BindsNothing (step : Reading α) : Prop :=
  ∀ x a, step.run .none = .ok (x, a) → a = .none

/-- Steps that bind nothing have the results that each of them has for itself. -/
theorem forall₂_of_run_mapM {step : α → Reading β} {xs : List α} {ys : List β} {a : Assigned}
    (hsteps : ∀ x ∈ xs, BindsNothing (step x)) (h : (xs.mapM step).run .none = .ok (ys, a)) :
    a = .none ∧ List.Forall₂ (fun x y => (step x).run .none = .ok (y, .none)) xs ys := by
  induction xs generalizing ys a with
  | nil =>
      cases h
      exact ⟨rfl, .nil⟩
  | cons x xs ih =>
      obtain ⟨hstep, hsteps⟩ := List.forall_mem_cons.mp hsteps
      rw [List.mapM_cons] at h
      obtain ⟨y, mid, hy, h⟩ := run_bind_eq_ok.mp h
      obtain rfl := hstep y mid hy
      obtain ⟨later, last, hlater, h⟩ := run_bind_eq_ok.mp h
      cases h
      obtain ⟨rfl, hall⟩ := ih hsteps hlater
      exact ⟨rfl, .cons hy hall⟩

end TypeText

/-! ## Fields of record types -/

namespace RecordType

variable {t : RecordType}

/-- A field is declared as a text, as its own declaration means one. -/
def DeclaresText (t : RecordType) (name : String) : Prop :=
  ∃ f ∈ t.fields, f.name = name ∧
    ∃ m a, (f.meaning t.around).run .none = .ok (m, a) ∧ m.IsText

/--
A field is taken for a text: by the meanings of all declarations, read one after the other, and by
how it is written if one of them has no meaning.
-/
inductive TakesForText (t : RecordType) : String → Prop
  | meant {meanings : List Meaning} {i : Nat} {f : Field} {m : Meaning}
      (hmeanings : t.meanings = .ok meanings) (hfield : t.fields[i]? = some f)
      (hmeaning : meanings[i]? = some m) (htext : m.IsText) : TakesForText t f.name
  | written {f : Field} (hmeanings : t.meanings = .error .senseless) (hfield : f ∈ t.fields)
      (htext : f.annotation.isStringAsWritten = true) : TakesForText t f.name

theorem mem_stringNames_iff
    {names : List String} (h : t.stringNames = .ok names) (name : String) :
    name ∈ names ↔ t.TakesForText name := by
  rw [stringNames] at h
  cases hmeanings : t.meanings with
  | ok meanings =>
      rw [hmeanings] at h
      cases h
      rw [List.mem_map]
      constructor
      · rintro ⟨⟨f, m⟩, hmem, rfl⟩
        obtain ⟨hzip, htext⟩ := List.mem_filter.mp hmem
        obtain ⟨i, hi⟩ := List.mem_iff_getElem?.mp hzip
        obtain ⟨hfield, hmeaning⟩ := List.getElem?_zip_eq_some.mp hi
        exact .meant hmeanings hfield hmeaning (m.isString_iff.mp htext)
      · intro hdeclared
        cases hdeclared with
        | @meant meanings' i f m hmeanings' hfield hmeaning htext =>
            cases hmeanings.symm.trans hmeanings'
            have hzip : (f, m) ∈ t.fields.zip meanings :=
              List.mem_iff_getElem?.mpr ⟨i, List.getElem?_zip_eq_some.mpr ⟨hfield, hmeaning⟩⟩
            exact ⟨(f, m), List.mem_filter.mpr ⟨hzip, m.isString_iff.mpr htext⟩, rfl⟩
        | written hmeanings' => cases hmeanings.symm.trans hmeanings'
  | error flaw =>
      rw [hmeanings] at h
      split at h
      · next hok => cases hok
      · next hsenseless =>
          cases hsenseless
          cases h
          rw [namesWhere, List.mem_map]
          constructor
          · rintro ⟨f, hmem, rfl⟩
            obtain ⟨hfield, htext⟩ := List.mem_filter.mp hmem
            exact .written hmeanings hfield htext
          · intro hdeclared
            cases hdeclared with
            | meant hmeanings' => cases hmeanings.symm.trans hmeanings'
            | @written f _ hfield htext =>
                exact ⟨f, List.mem_filter.mpr ⟨hfield, htext⟩, rfl⟩
      · cases h

/-- Every declaration has a meaning, and none binds a name for those after it. -/
structure IsReadable (t : RecordType) : Prop where
  found : ∃ meanings, t.meanings = .ok meanings
  fields : ∀ f ∈ t.fields, TypeText.BindsNothing (f.meaning t.around)
  others : ∀ d ∈ t.others, TypeText.BindsNothing (d.meaning t.around)

theorem bindsNothing_readSides (h : t.IsReadable) {sides : List SideDeclaration}
    (hsides : sides ⊆ t.others) : TypeText.BindsNothing (t.readSides sides) := by
  intro _ a hrun
  obtain ⟨found, mid, hfound, hend⟩ := run_bind_eq_ok.mp hrun
  cases hend
  exact (TypeText.forall₂_of_run_mapM (fun d hd => h.others d (hsides hd)) hfound).1

theorem run_readField (h : t.IsReadable) {f : Field} {i : Nat} {m : Meaning} {a : TypeText.Assigned}
    (hrun : (t.readField (f, i)).run .none = .ok (m, a)) :
    (f.meaning t.around).run .none = .ok (m, a) := by
  obtain ⟨_, mid, hmid, hmeaning⟩ := run_bind_eq_ok.mp hrun
  obtain rfl := bindsNothing_readSides h (List.filter_subset_self _) _ mid hmid
  exact hmeaning

/-- Declarations that bind nothing mean among the others what they mean for themselves. -/
theorem forall₂_of_isReadable (h : t.IsReadable) {meanings : List Meaning}
    (hmeanings : t.meanings = .ok meanings) :
    List.Forall₂ (fun f m => (f.meaning t.around).run .none = .ok (m, .none))
      t.fields meanings := by
  obtain ⟨⟨found, last⟩, hread, rfl⟩ := map_eq_ok.mp
    (show (t.readAll.run .none).map Prod.fst = .ok meanings from hmeanings)
  obtain ⟨_, mid, hfound, hread⟩ := run_bind_eq_ok.mp hread
  obtain ⟨_, _, -, hread⟩ := run_bind_eq_ok.mp hread
  cases hread
  have hsteps : ∀ entry ∈ t.fields.zipIdx, TypeText.BindsNothing (t.readField entry) := by
    rintro ⟨f, i⟩ hentry m a hrun
    exact h.fields f (List.fst_mem_of_mem_zipIdx hentry) m a (run_readField h hrun)
  obtain ⟨-, hall⟩ := TypeText.forall₂_of_run_mapM hsteps hfound
  have hfields : List.Forall₂ (fun f m => (f.meaning t.around).run .none = .ok (m, .none))
      (t.fields.zipIdx.map Prod.fst) found :=
    List.forall₂_map_left_iff.mpr (hall.imp fun _ _ hrun => run_readField h hrun)
  rwa [List.zipIdx_map_fst] at hfields

/-- Where declarations have meanings and bind nothing, fields are taken for what they are. -/
theorem takesForText_iff_declaresText (h : t.IsReadable) (name : String) :
    t.TakesForText name ↔ t.DeclaresText name := by
  obtain ⟨meanings, hmeanings⟩ := h.found
  obtain ⟨hlength, hall⟩ := List.forall₂_iff_get.mp (forall₂_of_isReadable h hmeanings)
  constructor
  · rintro (⟨hmeanings', hfield, hmeaning, htext⟩ | ⟨hmeanings', -, -⟩)
    · cases hmeanings.symm.trans hmeanings'
      obtain ⟨hi, rfl⟩ := List.getElem?_eq_some_iff.mp hfield
      obtain ⟨hi', rfl⟩ := List.getElem?_eq_some_iff.mp hmeaning
      exact ⟨_, List.getElem_mem hi, rfl, _, _, hall _ hi hi', htext⟩
    · cases hmeanings.symm.trans hmeanings'
  · rintro ⟨f, hf, rfl, m, a, hrun, htext⟩
    obtain ⟨i, hi, rfl⟩ := List.mem_iff_getElem.mp hf
    cases hrun.symm.trans (hall i hi (hlength ▸ hi))
    exact .meant hmeanings (List.getElem?_eq_getElem hi) (List.getElem?_eq_getElem _) htext

/-- Where a declaration has no meaning, all of them are taken by how they are written. -/
theorem takesForText_iff_written (h : t.meanings = .error .senseless) (name : String) :
    t.TakesForText name ↔
      ∃ f ∈ t.fields, f.name = name ∧ f.annotation.isStringAsWritten = true := by
  constructor
  · rintro (⟨hmeanings, -, -, -⟩ | ⟨-, hfield, htext⟩)
    · cases h.symm.trans hmeanings
    · exact ⟨_, hfield, rfl, htext⟩
  · rintro ⟨f, hf, rfl, htext⟩
    exact .written h hf htext

end RecordType

/-- A schema takes a path for a string if it is the name of a field that is taken for a text. -/
theorem Schema.isString_iff
    {row : RowType} {naming : Naming} {schema : Schema} (h : ofRow row naming = .ok schema)
    (path : FieldPath) :
    schema.isString path = true ↔
      path.rest = [] ∧ ∃ t, row = .record t ∧ t.TakesForText path.first.text := by
  rw [isString, Bool.and_eq_true, List.isEmpty_iff, List.contains_iff_mem]
  refine and_congr_right fun _ => ?_
  cases row with
  | untyped =>
      cases h
      simp [untyped]
  | dictionary =>
      cases h
      simp [untyped]
  | record t =>
      rw [ofRow] at h
      cases hstrings : t.stringNames with
      | error flaw =>
          rw [hstrings] at h
          cases h
      | ok strings =>
          rw [hstrings] at h
          cases h
          simpa using t.mem_stringNames_iff hstrings path.first.text
  | other name => cases h

theorem Schema.ofRow_of_stringNames
    {t : RecordType} {naming : Naming} {names : List String}
    (h : t.stringNames.toOption = some names) :
    ofRow (.record t) naming = .ok ⟨some t, naming, names⟩ := by
  rw [ofRow]
  cases hnames : t.stringNames with
  | error flaw =>
      rw [hnames] at h
      cases h
  | ok names' =>
      rw [hnames] at h
      cases h
      rfl

end PagedTables
