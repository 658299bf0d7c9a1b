import PagedTables.Proofs.Query.QueryString
import PagedTables.Proofs.Service.Tokens
import PagedTables.Proofs.Service.Traffic

/-!
# Counting the items of a query

A count is asked for by a query that is made anew of some parts of another one: its conditions, its
caller's parameters and whether deleted items count. What else the other query asks for plays no
part, not even if it cannot be translated.

The main result says what a count sends, what it comes to, and that the new query can always be
made: the parameters that a query has pass their checks again.
-/
namespace PagedTables

/-! ## Parameters that are set again -/

/-- Keys that differ from all others are added at the end. -/
theorem Value.insertEntry_of_forall {α : Type} {key : Value} {entries : List (Value × α)}
    (h : ∀ entry ∈ entries, entry.1.sameKey key = false) (v : α) :
    insertEntry key v entries = entries ++ [(key, v)] := by
  induction entries with
  | nil => rfl
  | cons entry rest ih =>
      obtain ⟨hentry, hrest⟩ := List.forall_mem_cons.mp h
      rw [insertEntry, hentry, if_neg Bool.false_ne_true, ih hrest, List.cons_append]

theorem Value.foldl_insertEntry {before entries : List (Value × Value)}
    (h : (before ++ entries).Pairwise fun a b => a.1.sameKey b.1 = false) :
    entries.foldl (fun acc entry => insertEntry entry.1 entry.2 acc) before =
      before ++ entries := by
  induction entries generalizing before with
  | nil => rw [List.append_nil]; rfl
  | cons entry rest ih =>
      have hnew : ∀ earlier ∈ before, earlier.1.sameKey entry.1 = false := fun earlier hearlier =>
        (List.pairwise_append.mp h).2.2 earlier hearlier entry List.mem_cons_self
      rw [List.append_cons] at h ⊢
      rw [List.foldl_cons, insertEntry_of_forall hnew]
      exact ih h

namespace TableQuery

/-- Entries whose keys differ are those of a dictionary. -/
theorem distinctEntries_of_pairwise {entries : List (Value × Value)}
    (h : entries.Pairwise fun a b => a.1.sameKey b.1 = false) : distinctEntries entries = entries :=
  Value.foldl_insertEntry h

/-- A name that passed its check with one value passes it with every value that passed. -/
theorem checkParameter_swap {entry entry' : Value × Value} {c c' : Component}
    (h : checkParameter entry = .ok c) (h' : checkParameter entry' = .ok c') :
    checkParameter (entry.1, entry'.2) = .ok (c.1, c'.2) := by
  rw [checkParameter] at h h' ⊢
  split at h
  · cases h
  · cases h
  · next name value hname hvalue =>
      split at h'
      · cases h'
      · cases h'
      · next name' value' hname' hvalue' =>
          split at h
          · cases h
          · next hreserved =>
              split at h'
              · cases h'
              · cases h
                cases h'
                simp [hname, hvalue', hreserved]

theorem asText?_of_checkParameter {entry : Value × Value} {c : Component}
    (h : checkParameter entry = .ok c) : entry.1.asText? = some c.1.text := by
  rw [checkParameter] at h
  split at h
  · cases h
  · cases h
  · next name value hname hvalue =>
      split at h
      · cases h
      · cases h
        rw [← Value.text_of_asName?, asName?_of_filledName? hname, Option.map_some]

/-- Parameters with different names that passed their checks one by one pass them together. -/
theorem checkParameters_of_mapM {entries : List (Value × Value)} {given : List Component}
    (h : entries.mapM checkParameter = .ok given) (hne : given ≠ [])
    (hdistinct : given.Pairwise fun c d => c.1.text ≠ d.1.text) :
    checkParameters entries = .ok given := by
  have hchecked := mapM_eq_ok_iff.mp h
  have hkeys : (entries.any fun entry => !entry.1.isKey) = false := by
    rw [List.any_eq_false]
    intro entry hentry
    obtain ⟨c, -, hc⟩ := exists_of_mem_of_forall₂ hchecked hentry
    simp [Value.isKey_of_asText? (asText?_of_checkParameter hc)]
  have hentries : distinctEntries entries = entries := by
    apply distinctEntries_of_pairwise
    clear hkeys h hne
    induction hchecked with
    | nil => exact .nil
    | cons hfirst hrest ih =>
        obtain ⟨hothers, hdistinct⟩ := List.pairwise_cons.mp hdistinct
        refine .cons (fun entry hentry => ?_) (ih hdistinct)
        obtain ⟨c, hmem, hc⟩ := exists_of_mem_of_forall₂ hrest hentry
        rw [Value.sameKey_of_asText? (asText?_of_checkParameter hfirst)
          (asText?_of_checkParameter hc)]
        simpa using hothers c hmem
  have hfilled : entries.isEmpty = false := by
    cases hchecked with
    | nil => exact absurd rfl hne
    | cons => rfl
  rw [checkParameters, hkeys, hentries, hfilled, if_neg Bool.false_ne_true,
    if_neg Bool.false_ne_true, h]

end TableQuery

/-- Every setting of an effect passed its check. -/
theorem exists_checkParameter_of_effect {call : BuilderCall} {effect : QueryEffect}
    (h : call.effect = .ok effect) {c : Component} (hc : c ∈ effect.settings) :
    ∃ entry, TableQuery.checkParameter entry = .ok c := by
  have hentries {entries : List (Value × Value)} (h : parametersEffect entries = .ok effect) :
      ∃ entry, TableQuery.checkParameter entry = .ok c := by
    obtain ⟨settings, rfl, hsettings⟩ := exists_checkParameter_of_parametersEffect h
    exact hsettings c hc
  cases call with
  | withParameter name value => exact hentries h
  | withParameters entries => exact hentries h
  | skip count =>
      rw [BuilderCall.effect] at h
      split at h <;> cases h
      cases hc
  | take count =>
      rw [BuilderCall.effect] at h
      split at h <;> cases h
      cases hc
  | includeDeleted enabled =>
      cases h
      cases hc
  | includeCount enabled =>
      cases h
      cases hc
  | _ =>
      obtain ⟨_, -, rfl⟩ := map_eq_ok.mp h
      cases hc

theorem lastValue_mem {settings : List Component} {setting : Component} (h : setting ∈ settings) :
    ∃ last ∈ settings, last.2 = lastValue settings setting.1.text := by
  have hne : settings.filter (fun s => s.1.text = setting.1.text) ≠ [] :=
    List.ne_nil_of_mem (List.mem_filter.mpr ⟨h, by simp⟩)
  have hlast := List.getLast?_eq_some_getLast hne
  refine ⟨_, (List.mem_filter.mp (List.mem_of_getLast? hlast)).1, ?_⟩
  rw [lastValue, hlast]
  rfl

namespace TableQuery

/-- The parameters of a query that builder calls make can be set again. -/
theorem exists_entries_chain (row : RowType) (naming : Naming) (table : Option String)
    (calls : List BuilderCall) :
    ∃ entries : List (Value × Value), entries.mapM checkParameter =
      .ok ((all row naming table).chain calls).spec.parameters := by
  have hchecked : ∀ c ∈ (effectsOf calls).flatMap QueryEffect.settings,
      ∃ entry, checkParameter entry = .ok c := by
    intro c hc
    obtain ⟨effect, heffect, hc⟩ := List.mem_flatMap.mp hc
    obtain ⟨call, -, hcall⟩ := List.mem_filterMap.mp heffect
    cases heff : call.effect with
    | error fault =>
        rw [heff] at hcall
        cases hcall
    | ok effect' =>
        rw [heff] at hcall
        cases hcall
        exact exists_checkParameter_of_effect heff hc
  -- A parameter has the name of the first setting and the value of the last one.
  have hmerged : ∀ c ∈ ((all row naming table).chain calls).spec.parameters,
      ∃ entry, checkParameter entry = .ok c := by
    rw [chain_eq_ofEffects]
    intro c hc
    obtain ⟨name, hname, rfl⟩ := List.mem_map.mp hc
    obtain ⟨first, hfirst, rfl⟩ := mem_of_mem_firstNames hname
    obtain ⟨last, hlast, hvalue⟩ := lastValue_mem hfirst
    obtain ⟨entry, hentry⟩ := hchecked first hfirst
    obtain ⟨entry', hentry'⟩ := hchecked last hlast
    exact ⟨_, hvalue ▸ checkParameter_swap hentry hentry'⟩
  generalize ((all row naming table).chain calls).spec.parameters = parameters at hmerged
  induction parameters with
  | nil => exact ⟨[], rfl⟩
  | cons c rest ih =>
      obtain ⟨⟨entry, hentry⟩, hrest⟩ := List.forall_mem_cons.mp hmerged
      obtain ⟨entries, hentries⟩ := ih hrest
      exact ⟨entry :: entries,
        mapM_eq_ok_iff.mpr (.cons hentry (mapM_eq_ok_iff.mp hentries))⟩

end TableQuery

theorem setAll_append {before settings : List Component}
    (h : (before ++ settings).Pairwise fun c d => c.1.text ≠ d.1.text) :
    setAll settings before = before ++ settings := by
  induction settings generalizing before with
  | nil => rw [List.append_nil]; rfl
  | cons setting rest ih =>
      obtain ⟨hbefore, -, hacross⟩ := List.pairwise_append.mp h
      have hnew : ∀ c ∈ before, c.1.text ≠ setting.1.text := fun c hc =>
        hacross c hc setting List.mem_cons_self
      have hset : setComponent setting.1 setting.2 before = before ++ [setting] := by
        have hnone : (before.any fun c => c.1.text = setting.1.text) = false := by
          simpa using hnew
        rw [setComponent_eq hbefore, hnone, if_neg Bool.false_ne_true]
        congr 1
        refine (List.map_congr_left fun c hc => ?_).trans (List.map_id before)
        rw [if_neg (hnew c hc), id_eq]
      rw [List.append_cons] at h ⊢
      rw [← ih h, ← hset]
      rfl

/-- Settings whose names differ are parameters as they are. -/
theorem setAll_of_pairwise {settings : List Component}
    (h : settings.Pairwise fun c d => c.1.text ≠ d.1.text) : setAll settings [] = settings :=
  setAll_append h

/-! ## The query that counts -/

namespace QuerySpec

/-- The text of the filter, if there is a filter. -/
def filterPart (spec : QuerySpec) (schema : Schema) : Except Refusal (Option String) :=
  match spec.filter with
  | none => .ok none
  | some e => (e.filterText schema).map some

/-- The components that a count is asked for with, given the text of the filter. -/
def countComponents (spec : QuerySpec) (filter : Option String) : List Component :=
  [(Name.plain "$count", "true")] ++
    filter.toList.map (Name.plain "$filter", ·) ++
    [(Name.plain "$top", "1")] ++
    (if spec.includeDeleted then [(Name.plain "__includedeleted", "true")] else []) ++
    spec.parameters

end QuerySpec

namespace TableQuery

/-- The builder calls that a query which counts is made with, given entries for the parameters. -/
def countingCalls (spec : QuerySpec) (entries : List (Value × Value)) : List BuilderCall :=
  spec.filter.toList.map (fun e => BuilderCall.filter (.operand (.node e))) ++
    (if spec.includeDeleted then [BuilderCall.includeDeleted (.bool true)] else []) ++
    (if spec.parameters.isEmpty then [] else [BuilderCall.withParameters entries]) ++
    [BuilderCall.includeCount (.bool true), BuilderCall.take (.int 1)]

/-- What these calls ask for. -/
def countingEffects (spec : QuerySpec) : List QueryEffect :=
  spec.filter.toList.map QueryEffect.condition ++
    (if spec.includeDeleted then [QueryEffect.deleted true] else []) ++
    (if spec.parameters.isEmpty then [] else [QueryEffect.parameters spec.parameters]) ++
    [QueryEffect.counted true, QueryEffect.limit ⟨1, some "1"⟩]

theorem ofEffects_countingEffects {q : TableQuery}
    (hdistinct : q.spec.parameters.Pairwise fun c d => c.1.text ≠ d.1.text) :
    ofEffects q.row q.naming none (countingEffects q.spec) = q.counting := by
  have hmerged : mergeSettings q.spec.parameters = q.spec.parameters :=
    (mergeSettings_append [] q.spec.parameters).trans (setAll_of_pairwise hdistinct)
  obtain ⟨row, ⟨filter, ordering, selection, skip, take, deleted, counted, parameters⟩, into,
    naming, table⟩ := q
  cases parameters with
  | nil => cases filter <;> cases deleted <;> rfl
  | cons c rest =>
      have hsettings : (countingEffects ⟨filter, ordering, selection, skip, take, deleted, counted,
          c :: rest⟩).flatMap QueryEffect.settings = c :: rest := by
        cases filter <;> cases deleted <;> simp [countingEffects, QueryEffect.settings]
      rw [ofEffects, specOf, hsettings, hmerged]
      cases filter <;> cases deleted <;> rfl

/-- The calls for a query that counts are all accepted, and they make it. -/
theorem chain_countingCalls {q : TableQuery} {entries : List (Value × Value)}
    (hentries : entries.mapM checkParameter = .ok q.spec.parameters)
    (hdistinct : q.spec.parameters.Pairwise fun c d => c.1.text ≠ d.1.text) :
    (∀ call ∈ countingCalls q.spec entries, ∃ effect, call.effect = .ok effect) ∧
      (all q.row q.naming none).chain (countingCalls q.spec entries) = q.counting := by
  have hgiven : (if q.spec.parameters.isEmpty then []
        else [BuilderCall.withParameters entries]).map BuilderCall.effect =
      (if q.spec.parameters.isEmpty then []
        else [QueryEffect.parameters q.spec.parameters]).map .ok := by
    split
    · rfl
    · next hne =>
        have hcheck := checkParameters_of_mapM hentries (by simpa using hne) hdistinct
        have hsettings := checkParameters_eq_ok hcheck
        simp [BuilderCall.effect, parametersEffect, hcheck, hsettings, Except.map]
  have hdeleted : (if q.spec.includeDeleted then [BuilderCall.includeDeleted (.bool true)]
        else []).map BuilderCall.effect =
      (if q.spec.includeDeleted then [QueryEffect.deleted true] else []).map .ok := by
    split <;> rfl
  have hresolved : (countingCalls q.spec entries).map BuilderCall.effect =
      (countingEffects q.spec).map .ok := by
    simp only [countingCalls, countingEffects, List.map_append, List.map_map, hgiven, hdeleted]
    rfl
  constructor
  · intro call hcall
    have heffect : call.effect ∈ (countingEffects q.spec).map Except.ok :=
      hresolved ▸ List.mem_map_of_mem hcall
    obtain ⟨effect, -, heffect⟩ := List.mem_map.mp heffect
    exact ⟨effect, heffect.symm⟩
  · have heffects : effectsOf (countingCalls q.spec entries) = countingEffects q.spec := by
      have h := congrArg (List.filterMap Except.toOption) hresolved
      rw [List.filterMap_map, List.filterMap_map] at h
      exact h.trans List.filterMap_some
    rw [chain_eq_ofEffects, heffects, ofEffects_countingEffects hdistinct]

/-- The components of a query that counts. -/
theorem components_counting {q : TableQuery} {schema : Schema} (hschema : q.schema = .ok schema) :
    q.counting.components true =
      ((q.spec.filterPart schema).map q.spec.countComponents).mapError .refused := by
  have hsame : q.counting.schema = .ok schema := hschema
  rw [components, hsame]
  obtain ⟨row, ⟨filter, ordering, selection, skip, take, deleted, counted, parameters⟩, into,
    naming, table⟩ := q
  cases filter with
  | none => cases deleted <;> rfl
  | some e =>
      have hmap : (some e).toList.mapM (Expr.filterText schema) =
          (e.filterText schema).map fun text => [text] := by
        cases htext : e.filterText schema <;>
          simp [htext, bind, Except.bind, pure, Except.pure, Except.map]
      simp only [bind, Except.bind, QuerySpec.components, QuerySpec.ownComponents, counting,
        QuerySpec.filterPart, hmap]
      cases e.filterText schema with
      | error refusal => rfl
      | ok text => cases deleted <;> rfl

end TableQuery

/-! ## Counts -/

namespace Client

variable {c c' : Client} {i : Nat} {q : TableQuery} {schema : Schema} (table : Value) (e : Exchange)

/-- A count is refused with the filter. -/
theorem count_of_refusal (htransport : c.transport = .ok (i, c')) (hschema : q.schema = .ok schema)
    {refusal : Refusal} (hfilter : q.spec.filterPart schema = .error refusal) :
    c.count table (some q) e = (.error (.refused refusal), c', e) := by
  simp [count, htransport, TableQuery.queryString, TableQuery.components_counting hschema, hfilter,
    Except.map, Except.mapError]

/-- A count is what one fetch comes to. -/
theorem count_of_text (htransport : c.transport = .ok (i, c')) (hschema : q.schema = .ok schema)
    {t : Transport} (hused : c'.transports[i]? = some t)
    {text : Option String} (hfilter : q.spec.filterPart schema = .ok text) :
    c.count table (some q) e =
      ((t.fetchPage Decoder.plain table
          (.query (.text (queryStringOf (q.spec.countComponents text)))) e).1 >>= countOf table,
        c',
        (t.fetchPage Decoder.plain table
          (.query (.text (queryStringOf (q.spec.countComponents text)))) e).2) := by
  simp only [count, htransport, TableQuery.queryString, TableQuery.components_counting hschema,
    hfilter, Except.map, Except.mapError, Option.getD_some, fetch, hused]
  rcases t.fetchPage Decoder.plain table
    (.query (.text (queryStringOf (q.spec.countComponents text)))) e with ⟨fault | p, e'⟩ <;> rfl

/-- No question marks are taken from the query string of a count. -/
theorem withoutMarks_countComponents (spec : QuerySpec) (filter : Option String) :
    Transport.withoutMarks (queryStringOf (spec.countComponents filter)) =
      queryStringOf (spec.countComponents filter) := by
  rw [Transport.withoutMarks_eq_self_iff]
  obtain ⟨rest, hrest⟩ : ∃ rest, spec.countComponents filter = (.plain "$count", "true") :: rest :=
    ⟨_, rfl⟩
  rw [hrest]
  cases rest <;>
    simp [queryStringOf, String.toList_intercalate, toList_componentText]

/-- What a count comes to, given what the fetch of its page comes to. -/
structure CountsFrom (answer : Except Fault (Page Int Item)) (result : Except Fault Int) :
    Prop where
  failed : ∀ fault, answer = .error fault → result = .error fault
  counted : ∀ p n, answer = .ok p → p.count = some n → result = .ok n
  uncounted : ∀ p, answer = .ok p → p.count = none → ∃ fault report, result = .error fault ∧
    fault.report? = some report ∧ report.kind = .decode ∧
      report.subcode = .text "decode_not_a_page"

theorem countsFrom_bind_countOf (answer : Except Fault (Page Int Item)) :
    CountsFrom answer (answer >>= countOf table) where
  failed := by
    rintro fault rfl
    rfl
  counted := by
    rintro p n rfl hcount
    simp [bind, Except.bind, countOf, hcount]
  uncounted := by
    rintro p rfl hcount
    exact ⟨.noCount table.toText, _, by simp [bind, Except.bind, countOf, hcount], rfl, rfl, rfl⟩

/-- A query for what is done, in an order that no service can make. -/
def doneQuery : TableQuery :=
  (TableQuery.all .untyped .camelCase (some "t")).chain
    [.filter (.operand (.node (.field ⟨"done", []⟩))),
      .orderBy (.operand (.node (.foreign "rank"))) true, .take (.int 5),
      .withParameter (.text "note") (.text "x")]

/-- Nothing is done. -/
def noneDone : Exchange :=
  .start [.response ⟨200, [], "\x7b\"items\": [], \"count\": 0\x7d"⟩] [] (.int 0) systemSleep

end Client

end PagedTables
