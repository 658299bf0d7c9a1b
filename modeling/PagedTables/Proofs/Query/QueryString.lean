import Mathlib.Data.List.Basic
import PagedTables.Proofs.Query.Chain
import PagedTables.Proofs.Text.Percent
import PagedTables.Proofs.Text.Split
import PagedTables.Query.Request

/-!
# Reading query strings back

A query string is split at its ampersands, each piece at its first equals sign, and the values are
decoded. What comes out are the components that it was made of, by the names that were written.

A query that is made by builder calls sends each of its parts that is not at its default under a
name of its own, in a fixed order, and then the caller's parameters. The checks on parameters keep
these names apart from each other.
-/
namespace PagedTables

/-! ## The reader -/

/-- The name before the first equals sign of a piece, and the value after it, decoded. -/
def readPiece? (piece : String) : Option (String × String) :=
  match piece.toList.dropWhile (· ≠ '=') with
  | [] => none
  | _ :: value =>
    (Text.percentDecode? (String.ofList value)).map
      (String.ofList (piece.toList.takeWhile (· ≠ '=')), ·)

/-- The names and values in a query string; there are none in an empty one. -/
def readQueryString? (s : String) : Option (List (String × String)) :=
  if s = "" then some [] else (Text.split '&' s).mapM readPiece?

/-- A name without the characters that take a query string apart. -/
def Name.IsSeparable (name : Name) : Prop :=
  '&' ∉ name.written.toList ∧ '=' ∉ name.written.toList

theorem notMem_percentEncode_of_not_isPlain
    {c : Char} (hplain : Text.isPlain c = false) (hc : c ≠ '%') (s : String) :
    c ∉ (Text.percentEncode s).toList := by
  intro hmem
  rcases Text.isPlain_of_mem_percentEncode hmem with h | h
  · exact absurd h (by simp [hplain])
  · exact hc h

theorem toList_componentText (c : Component) :
    (componentText c).toList =
      c.1.written.toList ++ '=' :: (Text.percentEncode c.2).toList := by
  simp [componentText]

theorem notMem_componentText {c : Component} (h : c.1.IsSeparable) :
    '&' ∉ (componentText c).toList := by
  have hvalue := notMem_percentEncode_of_not_isPlain (c := '&') (by decide) (by decide) c.2
  simp [toList_componentText, h.1, hvalue]

theorem readPiece?_componentText {c : Component} (h : c.1.IsSeparable) :
    readPiece? (componentText c) = some (c.1.written, c.2) := by
  have hname : ∀ char ∈ c.1.written.toList, (char ≠ '=' : Bool) = true := by
    intro char hchar
    simpa using fun hequals : char = '=' => h.2 (hequals ▸ hchar)
  rw [readPiece?, toList_componentText, List.dropWhile_append_of_pos hname,
    List.takeWhile_append_of_pos hname]
  simp [Text.percentDecode?_percentEncode]

theorem queryStringOf_eq_empty_iff (components : List Component) :
    queryStringOf components = "" ↔ components = [] := by
  constructor
  · intro h
    cases components with
    | nil => rfl
    | cons c rest =>
        have hchars := congrArg String.toList h
        cases rest <;>
          simp [queryStringOf, String.toList_intercalate, toList_componentText] at hchars
  · rintro rfl
    rfl

theorem mapM_readPiece? {components : List Component} (h : ∀ c ∈ components, c.1.IsSeparable) :
    (components.map componentText).mapM readPiece? =
      some (components.map fun c => (c.1.written, c.2)) := by
  induction components with
  | nil => rfl
  | cons c rest ih =>
      obtain ⟨hc, hrest⟩ := List.forall_mem_cons.mp h
      rw [List.map_cons, List.mapM_cons, readPiece?_componentText hc, ih hrest]
      rfl

/-- A query string is read back as the components that it was made of. -/
theorem readQueryString?_queryStringOf
    {components : List Component} (h : ∀ c ∈ components, c.1.IsSeparable) :
    readQueryString? (queryStringOf components) =
      some (components.map fun c => (c.1.written, c.2)) := by
  by_cases hnone : components = []
  · subst hnone
    rfl
  · have hpieces : ∀ piece ∈ (components.map componentText).map String.toList, '&' ∉ piece := by
      intro piece hpiece
      simp only [List.map_map, List.mem_map, Function.comp_apply] at hpiece
      obtain ⟨c, hc, rfl⟩ := hpiece
      exact notMem_componentText (h c hc)
    have hsplit : Text.split '&' (queryStringOf components) = components.map componentText := by
      have hne : (components.map componentText).map String.toList ≠ [] := by simpa using hnone
      rw [Text.split, queryStringOf, String.toList_intercalate]
      rw [show "&".toList = ['&'] from rfl, Text.splitAt_intercalate hne hpieces]
      simp
    rw [readQueryString?, if_neg ((queryStringOf_eq_empty_iff components).not.mpr hnone), hsplit]
    exact mapM_readPiece? h

/-! ## The components that a specification has of its own -/

/-- A part of specifications that is sent under a name of its own. -/
structure BuiltInPart where
  name : String
  /-- The part is not at its default. -/
  isSet : QuerySpec → Bool

/-- The parts that are sent, in the order in which they are. -/
def builtInParts : List BuiltInPart :=
  [⟨"$count", fun spec => spec.includeCount⟩,
    ⟨"$filter", fun spec => spec.filter.isSome⟩,
    ⟨"$orderby", fun spec => !spec.ordering.isEmpty⟩,
    ⟨"$select", fun spec => spec.selection.isSome⟩,
    ⟨"$skip", fun spec => spec.skip != 0⟩,
    ⟨"$top", fun spec => spec.take.isSome⟩,
    ⟨"__includedeleted", fun spec => spec.includeDeleted⟩]

/-- The names that a specification sends of its own. -/
def QuerySpec.builtInNames (spec : QuerySpec) : List String :=
  (builtInParts.filter fun part => part.isSet spec).map BuiltInPart.name

theorem isReserved_of_mem_builtInNames
    {spec : QuerySpec} {name : String} (h : name ∈ spec.builtInNames) :
    TableQuery.isReserved name = true := by
  have hall : ∀ part ∈ builtInParts, TableQuery.isReserved part.name = true := by
    simp only [builtInParts, List.forall_mem_cons]
    decide
  obtain ⟨part, hpart, rfl⟩ := List.mem_map.mp h
  exact hall part (List.mem_filter.mp hpart).1

theorem isSeparable_of_mem_builtInNames
    {spec : QuerySpec} {name : String} (h : name ∈ spec.builtInNames) :
    (Name.plain name).IsSeparable := by
  have hall : ∀ part ∈ builtInParts, (Name.plain part.name).IsSeparable := by
    simp only [builtInParts, List.forall_mem_cons, Name.IsSeparable, Name.plain]
    decide
  obtain ⟨part, hpart, rfl⟩ := List.mem_map.mp h
  exact hall part (List.mem_filter.mp hpart).1

theorem pairwise_builtInNames (spec : QuerySpec) : spec.builtInNames.Pairwise (· ≠ ·) := by
  have hall : (builtInParts.map BuiltInPart.name).Pairwise (· ≠ ·) := by
    simp only [builtInParts, List.map_cons, List.map_nil]
    decide
  exact hall.sublist (List.filter_sublist.map BuiltInPart.name)

theorem map_const_of_mapM_ok {ε α β γ : Type}
    {f : α → Except ε β} {as : List α} {bs : List β} (h : as.mapM f = .ok bs) (c : γ) :
    bs.map (fun _ => c) = as.map fun _ => c := by
  rw [List.map_const', List.map_const', length_of_mapM_ok h]

theorem map_const_toList {α β : Type} (o : Option α) (b : β) :
    o.toList.map (fun _ => b) = if o.isSome then [b] else [] := by
  cases o <;> rfl

theorem map_filter_cons {α β : Type} (p : α → Bool) (f : α → β) (a : α) (as : List α) :
    ((a :: as).filter p).map f = (if p a then [f a] else []) ++ (as.filter p).map f := by
  cases h : p a <;> simp [h]

/-- The parts that are not at their default are what is sent, each under its name. -/
theorem QuerySpec.map_fst_ownComponents
    {spec : QuerySpec} (hselection : spec.selection ≠ some [])
    {schema : Schema} {own : List Component} (h : spec.ownComponents schema = .ok own) :
    own.map Prod.fst = spec.builtInNames.map Name.plain := by
  obtain ⟨filter, hfilter, h⟩ := bind_eq_ok.mp h
  obtain ⟨ordering, hordering, h⟩ := bind_eq_ok.mp h
  obtain ⟨columns, hcolumns, h⟩ := bind_eq_ok.mp h
  obtain ⟨skip, hskipped, h⟩ := bind_eq_ok.mp h
  obtain ⟨take, htake, h⟩ := bind_eq_ok.mp h
  cases h
  have hkeys (name : Name) :
      (if spec.ordering.isEmpty then [] else [spec.ordering]).map (fun _ => name) =
        if !spec.ordering.isEmpty then [name] else [] := by
    cases spec.ordering <;> rfl
  have hselected (name : Name) :
      (spec.selection.toList.filter (!·.isEmpty)).map (fun _ => name) =
        if spec.selection.isSome then [name] else [] := by
    match hs : spec.selection with
    | none => rfl
    | some [] => exact absurd hs hselection
    | some (column :: rest) => rfl
  have hskip (name : Name) :
      (if 0 < spec.skip then [spec.skip] else []).map (fun _ => name) =
        if spec.skip != 0 then [name] else [] := by
    cases spec.skip <;> rfl
  have hflag (b : Bool) (name : Name) :
      (if b then ["true"] else []).map (fun _ => name) = if b then [name] else [] := by
    cases b <;> rfl
  rw [builtInNames, List.map_map]
  simp only [builtInParts, map_filter_cons, List.map_append, List.map_map, Function.comp_def,
    map_const_of_mapM_ok hfilter, map_const_of_mapM_ok hordering, map_const_of_mapM_ok hcolumns,
    map_const_of_mapM_ok hskipped, map_const_of_mapM_ok htake, map_const_toList, hkeys, hselected,
    hskip, hflag, List.append_assoc]
  simp

/-! ## What builder calls let through -/

/-- What the checks of a builder call leave of its effect. -/
def QueryEffect.Checked : QueryEffect → Prop
  | columns selection _ => selection ≠ []
  | parameters settings => ∀ c ∈ settings, TableQuery.isReserved c.1.text = false
  | _ => True

theorem isReserved_of_checkParameter
    {entry : Value × Value} {c : Component} (h : TableQuery.checkParameter entry = .ok c) :
    TableQuery.isReserved c.1.text = false := by
  rw [TableQuery.checkParameter] at h
  split at h
  · cases h
  · cases h
  · split at h
    · cases h
    · next hreserved =>
        cases h
        exact Bool.eq_false_iff.mpr hreserved

/-- Every setting that parameters come to passed its check. -/
theorem exists_checkParameter_of_parametersEffect
    {entries : List (Value × Value)} {effect : QueryEffect}
    (h : parametersEffect entries = .ok effect) :
    ∃ settings, effect = .parameters settings ∧
      ∀ c ∈ settings, ∃ entry, TableQuery.checkParameter entry = .ok c := by
  obtain ⟨given, hgiven, rfl⟩ := map_eq_ok.mp h
  refine ⟨_, rfl, fun c hc => ?_⟩
  rw [checkParameters_eq_ok hgiven] at hc
  rw [TableQuery.checkParameters] at hgiven
  split at hgiven
  · cases hgiven
  · split at hgiven
    · cases hgiven
    · obtain ⟨entry, -, hentry⟩ := exists_of_mem_mapM_ok hgiven hc
      exact ⟨entry, hentry⟩

theorem checked_parametersEffect
    {entries : List (Value × Value)} {effect : QueryEffect}
    (h : parametersEffect entries = .ok effect) : effect.Checked := by
  obtain ⟨settings, rfl, hsettings⟩ := exists_checkParameter_of_parametersEffect h
  intro c hc
  obtain ⟨entry, hentry⟩ := hsettings c hc
  exact isReserved_of_checkParameter hentry

theorem checkSelection_ne_nil
    {fields : List Argument} {named : List (String × Argument)} {selection : Selection}
    (h : TableQuery.checkSelection fields named = .ok selection) : selection ≠ [] := by
  rw [TableQuery.checkSelection] at h
  split at h
  · cases h
  · obtain ⟨own, -, h⟩ := bind_eq_ok.mp h
    obtain ⟨given, -, h⟩ := bind_eq_ok.mp h
    dsimp only at h
    split at h
    · cases h
    · next hfilled =>
        cases h
        simpa using hfilled

theorem BuilderCall.checked_effect
    {call : BuilderCall} {effect : QueryEffect} (h : call.effect = .ok effect) :
    effect.Checked := by
  cases call with
  | filter predicate =>
      obtain ⟨e, -, rfl⟩ := map_eq_ok.mp h
      trivial
  | orderBy key ascending =>
      obtain ⟨e, -, rfl⟩ := map_eq_ok.mp h
      trivial
  | thenBy key ascending =>
      obtain ⟨e, -, rfl⟩ := map_eq_ok.mp h
      trivial
  | select fields named into =>
      obtain ⟨selection, hselection, rfl⟩ := map_eq_ok.mp h
      exact checkSelection_ne_nil hselection
  | skip count =>
      rw [BuilderCall.effect] at h
      split at h <;> cases h
      trivial
  | take count =>
      rw [BuilderCall.effect] at h
      split at h <;> cases h
      trivial
  | includeDeleted enabled =>
      cases h
      trivial
  | includeCount enabled =>
      cases h
      trivial
  | withParameter name value => exact checked_parametersEffect h
  | withParameters entries => exact checked_parametersEffect h

/-- What holds of the specification of every query that builder calls make. -/
structure QuerySpec.Sendable (spec : QuerySpec) : Prop where
  selected : spec.selection ≠ some []
  distinct : spec.parameters.Pairwise fun c d => c.1.text ≠ d.1.text
  unreserved : ∀ c ∈ spec.parameters, TableQuery.isReserved c.1.text = false

theorem mem_of_mem_firstNames {settings : List Component} {name : Name}
    (h : name ∈ firstNames settings) : ∃ c ∈ settings, c.1 = name := by
  induction settings with
  | nil => cases h
  | cons setting rest ih =>
      rcases List.mem_cons.mp h with rfl | h
      · exact ⟨setting, List.mem_cons_self, rfl⟩
      · obtain ⟨c, hc, hname⟩ := ih (List.mem_filter.mp h).1
        exact ⟨c, List.mem_cons_of_mem setting hc, hname⟩

theorem QuerySpec.sendable_specOf
    {effects : List QueryEffect} (h : ∀ effect ∈ effects, effect.Checked) :
    (specOf effects).Sendable where
  selected := by
    intro hempty
    obtain ⟨⟨selection, into⟩, hlast, hselection⟩ := Option.map_eq_some_iff.mp hempty
    obtain ⟨effect, heffect, hcolumns⟩ :=
      List.mem_filterMap.mp (List.mem_of_getLast? hlast)
    cases effect <;> cases hcolumns
    exact h _ heffect hselection
  distinct := List.pairwise_map.mpr (pairwise_firstNames _)
  unreserved := by
    intro c hc
    obtain ⟨name, hname, rfl⟩ := List.mem_map.mp hc
    obtain ⟨setting, hsetting, rfl⟩ := mem_of_mem_firstNames hname
    obtain ⟨effect, heffect, hsetting⟩ := List.mem_flatMap.mp hsetting
    cases effect with
    | parameters settings => exact h _ heffect setting hsetting
    | _ => cases hsetting

/-- Every query that builder calls make can be sent. -/
theorem TableQuery.sendable_chain
    (row : RowType) (naming : Naming) (table : Option String) (calls : List BuilderCall) :
    ((all row naming table).chain calls).spec.Sendable := by
  rw [chain_eq_ofEffects]
  apply QuerySpec.sendable_specOf
  intro effect heffect
  obtain ⟨call, -, hcall⟩ := List.mem_filterMap.mp heffect
  cases heff : call.effect with
  | error fault =>
      rw [heff] at hcall
      cases hcall
  | ok effect' =>
      rw [heff] at hcall
      cases hcall
      exact call.checked_effect heff

/-- Comparing with the specification of every item tells whether it is that one. -/
theorem QuerySpec.same_all (spec : QuerySpec) :
    ∃ b, spec.same all = .ok b ∧ (b = true ↔ spec = all) := by
  obtain ⟨filter, ordering, selection, skip, take, deleted, count, parameters⟩ := spec
  cases filter with
  | some e => exact ⟨false, rfl, by simp [all]⟩
  | none =>
  cases ordering with
  | cons key rest => exact ⟨false, rfl, by simp [all]⟩
  | nil =>
  cases selection with
  | some columns => exact ⟨false, rfl, by simp [all]⟩
  | none =>
      refine ⟨_, rfl, ?_⟩
      simp [sameOptions, all, parameterTexts, and_assoc, List.isPerm_iff]

/-! ## The query string of a query -/

/-- A query that serializes has its own components, and the caller's parameters after them. -/
theorem TableQuery.queryString_eq_ok {q : TableQuery} {s : String}
    (h : q.queryString true = .ok s) :
    ∃ schema own, q.schema = .ok schema ∧ q.spec.ownComponents schema = .ok own ∧
      q.components false = .ok own ∧ q.components true = .ok (own ++ q.spec.parameters) ∧
      s = queryStringOf (own ++ q.spec.parameters) := by
  obtain ⟨components, hcomponents, rfl⟩ := map_eq_ok.mp h
  obtain ⟨schema, hschema, hspec⟩ := bind_eq_ok.mp hcomponents
  cases hown : q.spec.ownComponents schema with
  | error refusal =>
      rw [QuerySpec.components, hown] at hspec
      cases hspec
  | ok own =>
      have hall (withParameters : Bool) : q.components withParameters =
          .ok (if withParameters then own ++ q.spec.parameters else own) := by
        rw [TableQuery.components, hschema]
        simp only [bind, Except.bind, QuerySpec.components, hown]
        rfl
      have hcomponents := hcomponents.symm.trans (hall true)
      cases hcomponents
      exact ⟨schema, own, hschema, hown, hall false, hall true, rfl⟩

namespace QuerySpec.Sendable

variable {spec : QuerySpec} {schema : Schema} {own : List Component} (hspec : spec.Sendable)
  (hown : spec.ownComponents schema = .ok own)

include hspec hown

theorem exists_name_of_mem {c : Component} (hc : c ∈ own) :
    ∃ name ∈ spec.builtInNames, Name.plain name = c.1 := by
  apply List.mem_map.mp
  rw [← map_fst_ownComponents hspec.selected hown]
  exact List.mem_map_of_mem hc

/-- No two components have the same name, as no parameter has a name of the query's own. -/
theorem nodup_texts : ((own ++ spec.parameters).map fun c => c.1.text).Nodup := by
  rw [List.map_append, List.nodup_append]
  refine ⟨?_, List.pairwise_map.mpr hspec.distinct, ?_⟩
  · have htexts : (own.map fun c => c.1.text) = spec.builtInNames := by
      have h := congrArg (List.map Name.text) (map_fst_ownComponents hspec.selected hown)
      simpa [List.map_map, Function.comp_def, Name.plain] using h
    exact htexts ▸ pairwise_builtInNames spec
  · intro ownText hownText parameterText hparameterText hequal
    obtain ⟨c, hc, rfl⟩ := List.mem_map.mp hownText
    obtain ⟨p, hp, rfl⟩ := List.mem_map.mp hparameterText
    obtain ⟨name, hname, hplain⟩ := hspec.exists_name_of_mem hown hc
    have hreserved : TableQuery.isReserved c.1.text = true := by
      rw [← hplain]
      exact isReserved_of_mem_builtInNames hname
    rw [hequal, hspec.unreserved p hp] at hreserved
    cases hreserved

theorem isSeparable_of_mem
    (hseparable : ∀ p ∈ spec.parameters, p.1.IsSeparable)
    {c : Component} (hc : c ∈ own ++ spec.parameters) : c.1.IsSeparable := by
  rcases List.mem_append.mp hc with hc | hc
  · obtain ⟨name, hname, hplain⟩ := hspec.exists_name_of_mem hown hc
    rw [← hplain]
    exact isSeparable_of_mem_builtInNames hname
  · exact hseparable c hc

/-- The query's own names are written as they are, so that only parameters can be told apart. -/
theorem map_written_eq_map_text_iff :
    ((own ++ spec.parameters).map fun c => (c.1.written, c.2)) =
        ((own ++ spec.parameters).map fun c => (c.1.text, c.2)) ↔
      ∀ p ∈ spec.parameters, p.1.written = p.1.text := by
  rw [List.map_inj_left]
  constructor
  · intro h p hp
    exact congrArg Prod.fst (h p (List.mem_append_right own hp))
  · intro h c hc
    rcases List.mem_append.mp hc with hc | hc
    · obtain ⟨name, -, hplain⟩ := hspec.exists_name_of_mem hown hc
      rw [← hplain]
      rfl
    · rw [h c hc]

theorem append_eq_nil_iff : own ++ spec.parameters = [] ↔ spec = all := by
  have hnames := map_fst_ownComponents hspec.selected hown
  constructor
  · intro h
    obtain ⟨rfl, hparameters⟩ := List.append_eq_nil_iff.mp h
    have hunset : ∀ part ∈ builtInParts, part.isSet spec = false := by
      have hnone : spec.builtInNames = [] := List.map_eq_nil_iff.mp hnames.symm
      simpa [builtInNames] using hnone
    simp only [builtInParts, List.forall_mem_cons, Option.isSome_eq_false_iff,
      Option.isNone_iff_eq_none, Bool.not_eq_false', List.isEmpty_iff, bne_eq_false_iff_eq]
      at hunset
    obtain ⟨hcount, hfilter, hordering, hselection, hskip, htake, hdeleted, -⟩ := hunset
    obtain ⟨⟩ := spec
    simp_all [all]
  · rintro rfl
    exact List.append_eq_nil_iff.mpr ⟨List.map_eq_nil_iff.mp (hnames.trans rfl), rfl⟩

end QuerySpec.Sendable

/--
The query string of a query that builder calls make is read back as its components, by the names
that are written. They are the texts of the names unless a parameter has a name that is written
with its enumeration.

The names differ from each other. The query's own ones are those of the parts that are not at their
default, and the caller's parameters follow them. The query string is empty exactly for the
specification of every item.
-/
theorem TableQuery.queryString_reads_back
    (row : RowType) (naming : Naming) (table : Option String) (calls : List BuilderCall)
    {q : TableQuery} (hq : q = (all row naming table).chain calls)
    (hseparable : ∀ p ∈ q.spec.parameters, p.1.IsSeparable)
    {s : String} (hs : q.queryString true = .ok s) :
    ∃ own,
      (q.components false = .ok own ∧ q.components true = .ok (own ++ q.spec.parameters)) ∧
      own.map Prod.fst = q.spec.builtInNames.map Name.plain ∧
      ((own ++ q.spec.parameters).map fun c => c.1.text).Nodup ∧
      readQueryString? s = some ((own ++ q.spec.parameters).map fun c => (c.1.written, c.2)) ∧
      (readQueryString? s = some ((own ++ q.spec.parameters).map fun c => (c.1.text, c.2)) ↔
        ∀ p ∈ q.spec.parameters, p.1.written = p.1.text) ∧
      (s = "" ↔ q.spec = .all) ∧ q.spec.same .all = .ok (s = "") := by
  have hsendable : q.spec.Sendable := hq ▸ sendable_chain row naming table calls
  obtain ⟨schema, own, -, hown, hwithout, hwith, rfl⟩ := queryString_eq_ok hs
  -- The reader does not know where a component comes from; only its name may not be cut apart.
  have hread := readQueryString?_queryStringOf fun c hc =>
    hsendable.isSeparable_of_mem hown hseparable hc
  have hempty : queryStringOf (own ++ q.spec.parameters) = "" ↔ q.spec = .all :=
    (queryStringOf_eq_empty_iff _).trans (hsendable.append_eq_nil_iff hown)
  refine ⟨own, ⟨hwithout, hwith⟩, QuerySpec.map_fst_ownComponents hsendable.selected hown,
    hsendable.nodup_texts hown, hread, ?_, hempty, ?_⟩
  · rw [hread, Option.some_inj]
    exact hsendable.map_written_eq_map_text_iff hown
  · obtain ⟨b, hb, hsame⟩ := q.spec.same_all
    rw [hb, Bool.eq_iff_iff.mpr (hsame.trans (hempty.symm.trans decide_eq_true_iff.symm))]

namespace TableQuery

/-- Builder calls with a parameter whose value holds the separators of query strings. -/
def notedCalls : List BuilderCall :=
  [.includeCount (.bool true), .withParameter (.text "note") (.text "a&b=c d"), .skip (.int 3)]

theorem queryString_reads_back_notedCalls :
    ((all .untyped .camelCase none).chain notedCalls).queryString true =
        .ok "$count=true&$skip=3&note=a%26b%3Dc%20d" ∧
      readQueryString? "$count=true&$skip=3&note=a%26b%3Dc%20d" =
        some [("$count", "true"), ("$skip", "3"), ("note", "a&b=c d")] := by
  have hcomponents : ((all .untyped .camelCase none).chain notedCalls).components true =
      .ok [(.plain "$count", "true"), (.plain "$skip", "3"), (.plain "note", "a&b=c d")] := rfl
  have htext : queryStringOf
      [(.plain "$count", "true"), (.plain "$skip", "3"), (.plain "note", "a&b=c d")] =
        "$count=true&$skip=3&note=a%26b%3Dc%20d" := by
    decide +kernel
  have hs : ((all .untyped .camelCase none).chain notedCalls).queryString true =
      .ok "$count=true&$skip=3&note=a%26b%3Dc%20d" := by
    rw [queryString, hcomponents, ← htext]
    rfl
  have hparameters : ((all .untyped .camelCase none).chain notedCalls).spec.parameters =
      [(.plain "note", "a&b=c d")] := rfl
  have hseparable : ∀ p ∈ ((all .untyped .camelCase none).chain notedCalls).spec.parameters,
      p.1.IsSeparable := by
    simp only [hparameters, List.forall_mem_singleton, Name.IsSeparable]
    decide
  obtain ⟨own, ⟨-, hown⟩, -, -, hread, -⟩ :=
    queryString_reads_back .untyped .camelCase none notedCalls rfl hseparable hs
  rw [← Except.ok.inj (hcomponents.symm.trans hown)] at hread
  exact ⟨hs, hread⟩

/-- A query with a parameter whose name is a member of an enumeration. -/
def taggedQuery : TableQuery :=
  (all .untyped .camelCase none).chain
    [.withParameter (.member (.single (.of "Tag") (.of "PG") (.text "pg") .byName)) (.text "x")]

/-- A name that is a member is not what its query string is read back as. -/
theorem queryString_taggedQuery :
    taggedQuery.components true = .ok [(⟨"pg", some ⟨.of "Tag", .of "PG"⟩⟩, "x")] ∧
      taggedQuery.queryString true = .ok "Tag.PG=x" ∧
      readQueryString? "Tag.PG=x" = some [("Tag.PG", "x")] ∧
      readQueryString? "Tag.PG=x" ≠ some [("pg", "x")] := by
  have hseparable : ∀ c ∈ [((⟨"pg", some ⟨.of "Tag", .of "PG"⟩⟩, "x") : Component)],
      c.1.IsSeparable := by
    simp only [List.forall_mem_singleton, Name.IsSeparable]
    decide
  have htext : queryStringOf [(⟨"pg", some ⟨.of "Tag", .of "PG"⟩⟩, "x")] = "Tag.PG=x" := by
    decide +kernel
  have hread : readQueryString? "Tag.PG=x" = some [("Tag.PG", "x")] :=
    htext ▸ readQueryString?_queryStringOf hseparable
  refine ⟨rfl, congrArg Except.ok htext, hread, ?_⟩
  rw [hread]
  decide

end TableQuery

end PagedTables
