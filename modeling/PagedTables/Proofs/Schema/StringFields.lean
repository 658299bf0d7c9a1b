import PagedTables.Proofs.Json.Members
import PagedTables.Proofs.Schema.Declarations
import PagedTables.Proofs.TypeText.Forms

/-!
# Fields that are strings

How far the answer whether a field is a string depends on the field alone. Its declaration is read
together with those of all other fields. If each of them has a meaning, the meaning decides, which
is that of the declaration alone unless another field hides a name of it. If one of them has none,
all declarations are judged as they are written. Then the answer is another one for every
declaration that means a string and is not written in one of the known ways.
-/
namespace PagedTables

open TypeText (Meaning SpellsType Stand Steady)

/-- The texts in a declaration spell types with some names. -/
def Annotation.Spells (own : String → Option Meaning) (free : String → Prop) : Annotation → Prop
  | term m => m.HoldsForms own free
  | text s => SpellsType own free s

/-! ## What other fields hide -/

namespace RecordType

variable {t : RecordType} {before after : List Field} {f : Field} {name : String}

/-- A type of one field only, declared in the same place. -/
def alone (t : RecordType) (f : Field) (name : String) : RecordType :=
  ⟨name, [f], [], t.place⟩

/-- What a name stands for at the place of the type. -/
def word? (t : RecordType) (name : String) : Option Meaning :=
  t.place.lookup name <|> Meaning.known? name

/-- Reads the declarations up to the one of the field after some fields. -/
def readBefore (t : RecordType) (before : List Field) : TypeText.Reading (List Meaning) := do
  let found ← before.zipIdx.mapM t.readField
  t.readSides (t.sidesAt before.length)
  return found

/--
A name in the declaration after some fields does not stand for what it does at the place of the
types: the record type has an attribute of the name, or the text of a declaration before binds it.
-/
def Hides (t : RecordType) (before : List Field) (name : String) : Prop :=
  t.around.members.lookup name ≠ none ∨ ∃ (found : List Meaning) (a : TypeText.Assigned),
    (t.readBefore before).run .none = .ok (found, a) ∧
      (a.inFunction ++ a.outside ++ a.inComprehensions).lookup name ≠ none

/-- A type with one field has no more attributes than one with others beside it. -/
theorem lookup_members_alone (hf : f ∈ t.fields) (typeName : String)
    (h : t.around.members.lookup name = none) :
    (t.alone f typeName).around.members.lookup name = none := by
  rw [Json.lookup_eq_none_iff_notMem, around, TypeText.recordNames, List.map_append,
    List.mem_append, not_or] at h ⊢
  refine ⟨fun hmem => h.1 ?_, h.2⟩
  obtain ⟨pair, hpair, rfl⟩ := List.mem_map.mp hmem
  obtain ⟨declared, hdeclared, hdefault⟩ := List.mem_filterMap.mp hpair
  have honly : declared = f.declared := by simpa [alone, sidesAt, lastSides] using hdeclared
  refine List.mem_map_of_mem (List.mem_filterMap.mpr ⟨f.declared, ?_, honly ▸ hdefault⟩)
  obtain ⟨i, hi⟩ := List.mem_iff_getElem?.mp hf
  exact List.mem_append_left _
    (List.mem_flatMap.mpr ⟨(f, i), List.mk_mem_zipIdx_iff_getElem?.mpr hi, by simp⟩)

/-- A name that is hidden from a field alone is hidden from it among others too. -/
theorem Hides.of_alone (hf : f ∈ t.fields) {typeName : String}
    (h : (t.alone f typeName).Hides [] name) : t.Hides before name := by
  rcases h with hattribute | ⟨found, a, hread, hbound⟩
  · exact .inl fun hnone => hattribute (lookup_members_alone hf typeName hnone)
  · cases hread
    exact absurd rfl hbound

theorem stand_of_not_hides {free : String → Prop} (h : ∀ name, free name → ¬t.Hides before name)
    {found : List Meaning} {a : TypeText.Assigned}
    (hbefore : (t.readBefore before).run .none = .ok (found, a)) :
    Stand t.word? free t.around a := by
  intro name hname
  have hmembers : t.around.members.lookup name = none := by
    by_contra hne
    exact h name hname (.inl hne)
  have hbound : (a.inFunction ++ a.outside ++ a.inComprehensions).lookup name = none := by
    by_contra hne
    exact h name hname (.inr ⟨found, a, hbefore, hne⟩)
  simp only [List.lookup_append, Option.or_eq_none_iff] at hbound
  have hplace : t.around.place = t.place := rfl
  simp [TypeText.Surroundings.found?, word?, List.lookup_append, hbound, hmembers, hplace]

/-! ## The meaning of one declaration among others -/

theorem length_of_run_mapM {α β : Type} {f : α → TypeText.Reading β} {as : List α}
    {a a' : TypeText.Assigned} {bs : List β} (h : (as.mapM f).run a = .ok (bs, a')) :
    bs.length = as.length := by
  induction as generalizing a bs with
  | nil =>
      cases h
      rfl
  | cons first rest ih =>
      rw [List.mapM_cons] at h
      obtain ⟨b, mid, _, h⟩ := run_bind_eq_ok.mp h
      obtain ⟨later, last, hlater, h⟩ := run_bind_eq_ok.mp h
      cases h
      exact congrArg Nat.succ (ih hlater)

/-- The meaning of a declaration is found after those of the declarations before. -/
theorem exists_meaning (hfields : t.fields = before ++ f :: after) {found : List Meaning}
    (hfound : t.meanings = .ok found) :
    ∃ earlier a m a', (t.readBefore before).run .none = .ok (earlier, a) ∧
      (f.meaning t.around).run a = .ok (m, a') ∧
      found[before.length]? = some m := by
  obtain ⟨⟨_, last⟩, hread, rfl⟩ := map_eq_ok.mp
    (show (t.readAll.run .none).map Prod.fst = .ok found from hfound)
  obtain ⟨_, end', hread, hend⟩ := run_bind_eq_ok.mp hread
  obtain ⟨_, _, _, hend⟩ := run_bind_eq_ok.mp hend
  cases hend
  rw [hfields, List.zipIdx_append, List.zipIdx_cons, List.mapM_append, List.mapM_cons] at hread
  obtain ⟨earlier, a, hbefore, hread⟩ := run_bind_eq_ok.mp hread
  obtain ⟨rest, a'', hrest, hread⟩ := run_bind_eq_ok.mp hread
  obtain ⟨m, a', hfield, hrest⟩ := run_bind_eq_ok.mp hrest
  obtain ⟨later, _, _, hrest⟩ := run_bind_eq_ok.mp hrest
  cases hrest
  cases hread
  obtain ⟨_, mid, hsides, hmeaning⟩ := run_bind_eq_ok.mp hfield
  rw [Nat.zero_add] at hsides
  have hbefore' : (t.readBefore before).run .none = .ok (earlier, mid) :=
    run_bind_eq_ok.mpr ⟨earlier, a, hbefore, run_bind_eq_ok.mpr ⟨_, mid, hsides, rfl⟩⟩
  refine ⟨earlier, mid, m, a', hbefore', hmeaning, ?_⟩
  have hlength : earlier.length = before.length := by
    rw [length_of_run_mapM hbefore, List.length_zipIdx]
  show (earlier ++ m :: later)[before.length]? = some m
  rw [← hlength, List.getElem?_append_right (Nat.le_refl _), Nat.sub_self]
  rfl

/-- Alone, a declaration is read before anything is bound. -/
theorem run_meaning_of_alone {typeName : String} {m : Meaning}
    (h : (t.alone f typeName).meanings = .ok [m]) :
    ∃ a, (f.meaning (t.alone f typeName).around).run .none = .ok (m, a) := by
  obtain ⟨_, a, m', a', hnone, hmeaning, hm⟩ :=
    exists_meaning (show (t.alone f typeName).fields = [] ++ f :: [] from rfl) h
  cases hnone
  cases hm
  exact ⟨a', hmeaning⟩

theorem steady_meaning {own : String → Option Meaning} {free : String → Prop}
    (h : f.annotation.Spells own free) : Steady own free (fun _ => True) f.meaning := by
  unfold Field.meaning
  cases hdeclared : f.annotation with
  | term m =>
      rw [hdeclared] at h
      exact TypeText.steady_typeMeaning h
  | text s =>
      rw [hdeclared] at h
      exact TypeText.steady_textMeaning h

/-- A declaration means the same among others as alone, unless they hide a name of it. -/
theorem meaning_eq_alone {free : String → Prop} (hspells : f.annotation.Spells t.word? free)
    (hfields : t.fields = before ++ f :: after) (hshown : ∀ name, free name → ¬t.Hides before name)
    {earlier : List Meaning} {a a' : TypeText.Assigned} {m m' : Meaning} {typeName : String}
    (hbefore : (t.readBefore before).run .none = .ok (earlier, a))
    (hmeaning : (f.meaning t.around).run a = .ok (m, a'))
    (halone : (t.alone f typeName).meanings = .ok [m']) : m = m' := by
  obtain ⟨result, -, hresult⟩ := steady_meaning hspells
  have hf : f ∈ t.fields := by simp [hfields]
  have hshownAlone : ∀ name, free name → ¬(t.alone f typeName).Hides [] name :=
    fun name hname hhides => hshown name hname (hhides.of_alone hf)
  obtain ⟨a'', hmeaning'⟩ := run_meaning_of_alone halone
  rw [hresult _ _ (stand_of_not_hides hshown hbefore)] at hmeaning
  rw [hresult _ _ (stand_of_not_hides hshownAlone rfl)] at hmeaning'
  obtain ⟨x, hx, heq⟩ := map_eq_ok.mp hmeaning
  obtain ⟨x', hx', heq'⟩ := map_eq_ok.mp hmeaning'
  cases heq
  cases heq'
  exact Except.ok.inj (hx.symm.trans hx')

/-! ## The answer for one field -/

section Answers

variable (hnames : (t.fields.map Field.name).Nodup)

include hnames

theorem takesForText_iff_of_meaning (hfields : t.fields = before ++ f :: after)
    {found : List Meaning} (hfound : t.meanings = .ok found) {m : Meaning}
    (hm : found[before.length]? = some m) : t.TakesForText f.name ↔ m.isString = true := by
  have hplace : t.fields[before.length]? = some f := by simp [hfields]
  rw [m.isString_iff]
  constructor
  · intro hdeclared
    generalize hname : f.name = name at hdeclared
    cases hdeclared with
    | @meant found' i g m' hfound' hfield hmeaning htext =>
        cases hfound.symm.trans hfound'
        have hindex : before.length = i := by
          refine (List.getElem?_inj (by simp [hfields]) hnames).mp ?_
          rw [List.getElem?_map, List.getElem?_map, hplace, hfield]
          exact congrArg some hname
        subst hindex
        cases hm.symm.trans hmeaning
        exact htext
    | written hsenseless => cases hfound.symm.trans hsenseless
  · exact fun htext => .meant hfound hplace hm htext

theorem takesForText_iff_of_senseless (hf : f ∈ t.fields)
    (hsenseless : t.meanings = .error .senseless) :
    t.TakesForText f.name ↔ f.annotation.isStringAsWritten = true := by
  constructor
  · intro hdeclared
    generalize hname : f.name = name at hdeclared
    cases hdeclared with
    | meant hfound => cases hsenseless.symm.trans hfound
    | written _ hfield htext =>
        rwa [List.inj_on_of_nodup_map hnames hf hfield hname]
  · exact fun htext => .written hsenseless hf htext

end Answers

end RecordType

/-- The names with which strings are declared. -/
def TypeText.stringWords : List String := ["str", "Optional"]

/-- What the names with which strings are declared most often stand for. -/
def TypeText.stringWord? (name : String) : Option Meaning :=
  [("str", Meaning.named "str"), ("Optional", .builder "Optional")].lookup name

section

variable {s : String} (hs : s ∈ Annotation.stringSpellings)

include hs

theorem TypeText.spellsType_of_mem_stringSpellings :
    SpellsType TypeText.stringWord? (· ∈ TypeText.stringWords) s := by
  have hforms : ∀ s ∈ Annotation.stringSpellings,
      (Meaning.tree? s).all (Tree.isPlainForm TypeText.stringWords) = true := by
    decide +kernel
  have hsingle : ∀ name ∈ TypeText.stringWords, ∀ m, TypeText.stringWord? name = some m →
      m.isSingle = true := by
    rintro name hname m hm
    rcases List.mem_pair.mp hname with rfl | rfl
    · cases hm
      rfl
    · cases hm
      rfl
  intro t ht
  have hform := hforms s hs
  rw [ht] at hform
  exact Tree.isTypeForm_of_isPlainForm hsingle hform

theorem TypeText.isString_of_mem_stringSpellings {around : Surroundings} {a a' : Assigned}
    (h : Stand TypeText.stringWord? (· ∈ TypeText.stringWords) around a) {m : Meaning}
    (hm : (textMeaning around s).run a = .ok (m, a')) : m.isString = true := by
  have hstrings : ∀ s ∈ Annotation.stringSpellings,
      (((textMeaning ⟨[("Optional", .builder "Optional")], []⟩ s).run .none).toOption.map
        fun found => found.1.isString) = some true := by
    decide +kernel
  have hplain : Stand TypeText.stringWord? (· ∈ TypeText.stringWords)
      ⟨[("Optional", .builder "Optional")], []⟩ .none := by
    intro name hname
    rcases List.mem_pair.mp hname with rfl | rfl
    · rfl
    · rfl
  obtain ⟨result, -, hresult⟩ := steady_textMeaning (spellsType_of_mem_stringSpellings hs)
  have hstring := hstrings s hs
  rw [hresult _ _ hplain] at hstring
  rw [hresult around a h] at hm
  cases result with
  | error flaw => cases hm
  | ok m' =>
      cases hm
      exact Option.some.inj hstring

end

namespace Schema

variable {t : RecordType} {before after : List Field} {f : Field} {typeName : String}
  {naming : Naming} {s alone : Schema} {m : Meaning}

theorem isString_name (hschema : ofRow (.record t) naming = .ok s) :
    s.isString ⟨f.name, []⟩ = true ↔ t.TakesForText f.name := by
  rw [isString_iff hschema]
  simp

theorem isString_eq_of_meaning (hnames : (t.fields.map Field.name).Nodup)
    (hfields : t.fields = before ++ f :: after) (hschema : ofRow (.record t) naming = .ok s)
    {found : List Meaning} (hfound : t.meanings = .ok found)
    (hm : found[before.length]? = some m) : s.isString ⟨f.name, []⟩ = m.isString := by
  rw [Bool.eq_iff_iff, isString_name hschema,
    RecordType.takesForText_iff_of_meaning hnames hfields hfound hm]

theorem isString_eq_of_senseless (hnames : (t.fields.map Field.name).Nodup)
    (hf : f ∈ t.fields) (hschema : ofRow (.record t) naming = .ok s)
    (hsenseless : t.meanings = .error .senseless) :
    s.isString ⟨f.name, []⟩ = f.annotation.isStringAsWritten := by
  rw [Bool.eq_iff_iff, isString_name hschema,
    RecordType.takesForText_iff_of_senseless hnames hf hsenseless]

/-- A type with a schema has the meanings of its declarations, or lacks the sense of one. -/
theorem meanings_of_ofRow (hschema : ofRow (.record t) naming = .ok s) :
    (∃ found, t.meanings = .ok found) ∨ t.meanings = .error .senseless := by
  cases hmeanings : t.meanings with
  | ok found => exact .inl ⟨found, rfl⟩
  | error flaw =>
      cases flaw with
      | senseless => exact .inr rfl
      | _ =>
          rw [ofRow, RecordType.stringNames, hmeanings] at hschema
          cases hschema

/-- Nothing in a type without texts and notes is looked up, so that nothing beside it matters. -/
theorem isString_whole (hnames : (t.fields.map Field.name).Nodup)
    (hfields : t.fields = before ++ f :: after) (hschema : ofRow (.record t) naming = .ok s)
    (hterm : f.annotation = .term m) (hwhole : m.IsWhole) :
    s.isString ⟨f.name, []⟩ = m.isString := by
  rcases meanings_of_ofRow hschema with ⟨found, hfound⟩ | hsenseless
  · obtain ⟨_, _, _, _, -, hmeaning, hplace⟩ := RecordType.exists_meaning hfields hfound
    rw [isString_eq_of_meaning hnames hfields hschema hfound hplace]
    rw [Field.meaning, hterm] at hmeaning
    exact Meaning.isString_of_run_typeMeaning hwhole hmeaning
  · rw [isString_eq_of_senseless hnames (by simp [hfields]) hschema hsenseless, hterm]
    rfl

/-- The known words for a string are found by their meaning and by how they are written. -/
theorem isString_spelling (hnames : (t.fields.map Field.name).Nodup)
    (hfields : t.fields = before ++ f :: after) (hschema : ofRow (.record t) naming = .ok s)
    {text : String} (htext : f.annotation = .text text)
    (hspelling : text ∈ Annotation.stringSpellings)
    (hwords : ∀ name ∈ TypeText.stringWords, t.word? name = TypeText.stringWord? name)
    (hshown : ∀ name ∈ TypeText.stringWords, ¬t.Hides before name) :
    s.isString ⟨f.name, []⟩ = true := by
  rcases meanings_of_ofRow hschema with ⟨found, hfound⟩ | hsenseless
  · obtain ⟨_, _, _, _, hbefore, hmeaning, hplace⟩ := RecordType.exists_meaning hfields hfound
    rw [isString_eq_of_meaning hnames hfields hschema hfound hplace]
    rw [Field.meaning, htext] at hmeaning
    refine TypeText.isString_of_mem_stringSpellings hspelling (fun name hname => ?_) hmeaning
    rw [RecordType.stand_of_not_hides hshown hbefore name hname, hwords name hname]
  · have hwritten : ∀ text ∈ Annotation.stringSpellings,
        Annotation.isStringAsWritten (.text text) = true := by
      decide
    rw [isString_eq_of_senseless hnames (by simp [hfields]) hschema hsenseless, htext,
      hwritten text hspelling]

/--
The answers for a field beside others and for the same field alone, declared in the same place. They
are the same if every declaration has a meaning, the texts in the one of the field spell types, and
no name of them is hidden. If some declaration has no meaning, they are the same if and only if the
declaration is written as a string just when it means one. So they differ for one in other words for
a string; they are the same always for a type in which no texts and notes stand, and both positive
for a text in the known words.
-/
theorem isString_alone (hnames : (t.fields.map Field.name).Nodup)
    (hfields : t.fields = before ++ f :: after) (hschema : ofRow (.record t) naming = .ok s)
    (halone : ofRow (.record (t.alone f typeName)) naming = .ok alone)
    (hmeaning : (t.alone f typeName).meanings = .ok [m]) :
    alone.isString ⟨f.name, []⟩ = m.isString ∧
      (∀ found free, t.meanings = .ok found → f.annotation.Spells t.word? free →
        (∀ name, free name → ¬t.Hides before name) →
        s.isString ⟨f.name, []⟩ = alone.isString ⟨f.name, []⟩) ∧
      (t.meanings = .error .senseless →
        (s.isString ⟨f.name, []⟩ = alone.isString ⟨f.name, []⟩ ↔
          f.annotation.isStringAsWritten = m.isString)) ∧
      (∀ m', f.annotation = .term m' → m'.IsWhole →
        s.isString ⟨f.name, []⟩ = alone.isString ⟨f.name, []⟩) ∧
      ∀ text, f.annotation = .text text → text ∈ Annotation.stringSpellings →
        (∀ name ∈ TypeText.stringWords, t.word? name = TypeText.stringWord? name) →
        (∀ name ∈ TypeText.stringWords, ¬t.Hides before name) →
        s.isString ⟨f.name, []⟩ = true ∧ alone.isString ⟨f.name, []⟩ = true := by
  have hf : f ∈ t.fields := by simp [hfields]
  have honly : (t.alone f typeName).fields = [] ++ f :: [] := rfl
  have hname : ((t.alone f typeName).fields.map Field.name).Nodup := List.nodup_singleton f.name
  have hanswer : alone.isString ⟨f.name, []⟩ = m.isString :=
    isString_eq_of_meaning hname honly halone hmeaning rfl
  refine ⟨hanswer, ?_, ?_, ?_, ?_⟩
  · intro found free hfound hspells hshown
    obtain ⟨earlier, a, m', a', hbefore, hmeaning', hplace⟩ :=
      RecordType.exists_meaning hfields hfound
    rw [hanswer, isString_eq_of_meaning hnames hfields hschema hfound hplace,
      RecordType.meaning_eq_alone hspells hfields hshown hbefore hmeaning' hmeaning]
  · intro hsenseless
    rw [hanswer, isString_eq_of_senseless hnames hf hschema hsenseless]
  · intro m' hterm hwhole
    rw [isString_whole hnames hfields hschema hterm hwhole,
      isString_whole hname honly halone hterm hwhole]
  · intro text htext hspelling hwords hshown
    exact ⟨isString_spelling hnames hfields hschema htext hspelling hwords hshown,
      isString_spelling hname honly halone htext hspelling hwords fun name hword hhides =>
        hshown name hword (hhides.of_alone hf)⟩

/-- Notes with a label and with a parent of an unknown type. -/
def notes (label : Field) : RecordType :=
  ⟨"Note", [label, ⟨"parent", .text "MissingType", none, none, true⟩], [], Meaning.builders⟩

/-- A label that may be missing. -/
def optionalLabel : Field :=
  ⟨"label", .text "Optional[str]", none, none, true⟩

/-- The same in other words. -/
def unionLabel : Field :=
  ⟨"label", .text "Union[str, None]", none, none, true⟩

theorem exists_meaning_alone
    (h : (t.alone f typeName).meanings.toOption.map List.length = some 1) :
    ∃ m, (t.alone f typeName).meanings = .ok [m] := by
  cases hmeanings : (t.alone f typeName).meanings with
  | error flaw =>
      rw [hmeanings] at h
      cases h
  | ok found =>
      rw [hmeanings] at h
      obtain ⟨m, rfl⟩ := List.length_eq_one_iff.mp (Option.some.inj h)
      exact ⟨m, rfl⟩

set_option maxRecDepth 100000 in
theorem isString_alone_optionalLabel :
    ((notes optionalLabel).fields.map Field.name).Nodup ∧
      ∃ s alone m, ofRow (.record (notes optionalLabel)) .camelCase = .ok s ∧
        ofRow (.record ((notes optionalLabel).alone optionalLabel "Label")) .camelCase =
          .ok alone ∧
        ((notes optionalLabel).alone optionalLabel "Label").meanings = .ok [m] ∧
        s.isString ⟨"label", []⟩ = true ∧ alone.isString ⟨"label", []⟩ = true := by
  have hnames : ((notes optionalLabel).fields.map Field.name).Nodup := by decide
  have hfields : (notes optionalLabel).fields =
      [] ++ optionalLabel :: [⟨"parent", .text "MissingType", none, none, true⟩] := rfl
  have hschema : ofRow (.record (notes optionalLabel)) .camelCase =
      .ok ⟨some (notes optionalLabel), .camelCase, ["label"]⟩ :=
    ofRow_of_stringNames (by decide +kernel)
  have halone : ofRow (.record ((notes optionalLabel).alone optionalLabel "Label")) .camelCase =
      .ok ⟨some ((notes optionalLabel).alone optionalLabel "Label"), .camelCase, ["label"]⟩ :=
    ofRow_of_stringNames (by decide +kernel)
  obtain ⟨m, hm⟩ : ∃ m, ((notes optionalLabel).alone optionalLabel "Label").meanings = .ok [m] :=
    exists_meaning_alone (by decide +kernel)
  have hattributes : ∀ name ∈ TypeText.stringWords,
      ((notes optionalLabel).around.members.lookup name).isNone = true := by
    decide +kernel
  have hshown : ∀ name ∈ TypeText.stringWords, ¬(notes optionalLabel).Hides [] name := by
    rintro name hname (hne | ⟨found, a, hread, hne⟩)
    · exact hne (Option.isNone_iff_eq_none.mp (hattributes name hname))
    · cases hread
      exact hne rfl
  have hwords : ∀ name ∈ TypeText.stringWords,
      (notes optionalLabel).word? name = TypeText.stringWord? name := by
    rintro name hname
    rcases List.mem_pair.mp hname with rfl | rfl
    · rfl
    · rfl
  obtain ⟨-, -, -, -, htext⟩ := isString_alone hnames hfields hschema halone hm
  exact ⟨hnames, _, _, m, hschema, halone, hm, htext _ rfl (by decide) hwords hshown⟩

set_option maxRecDepth 100000 in
/-- The label is a string alone, and none beside a field of an unknown type. -/
theorem isString_unionLabel :
    ∃ s alone m, ofRow (.record (notes unionLabel)) .camelCase = .ok s ∧
      ofRow (.record ((notes unionLabel).alone unionLabel "Label")) .camelCase = .ok alone ∧
      ((notes unionLabel).alone unionLabel "Label").meanings = .ok [m] ∧
      s.isString ⟨"label", []⟩ = false ∧ alone.isString ⟨"label", []⟩ = true := by
  have hschema : ofRow (.record (notes unionLabel)) .camelCase =
      .ok ⟨some (notes unionLabel), .camelCase, []⟩ :=
    ofRow_of_stringNames (by decide +kernel)
  have halone : ofRow (.record ((notes unionLabel).alone unionLabel "Label")) .camelCase =
      .ok ⟨some ((notes unionLabel).alone unionLabel "Label"), .camelCase, ["label"]⟩ :=
    ofRow_of_stringNames (by decide +kernel)
  obtain ⟨m, hm⟩ : ∃ m, ((notes unionLabel).alone unionLabel "Label").meanings = .ok [m] :=
    exists_meaning_alone (by decide +kernel)
  exact ⟨_, _, m, hschema, halone, hm, rfl, rfl⟩

end Schema

end PagedTables
