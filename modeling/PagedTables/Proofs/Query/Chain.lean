import Mathlib.Algebra.GroupWithZero.Nat
import Mathlib.Data.List.MinMax
import PagedTables.Proofs.Result
import PagedTables.Query.Builder

/-!
# Chains of builder calls

A query is made by a chain of builder calls. A call whose arguments are refused leaves the query as
it was; the effect of any other call depends on its arguments alone, and not on the query.

The main result gives the query that a chain makes as a function of the effects of its calls, one
part of the query after the other.
-/
namespace PagedTables

/-- A builder call with its arguments. -/
inductive BuilderCall where
  | filter (predicate : Argument)
  | orderBy (key : Argument) (ascending : Bool)
  | thenBy (key : Argument) (ascending : Bool)
  | select (fields : List Argument) (named : List (String × Argument)) (into : RowType)
  | skip (count : Value)
  | take (count : Value)
  | includeDeleted (enabled : Value)
  | includeCount (enabled : Value)
  | withParameter (name value : Value)
  | withParameters (entries : List (Value × Value))

/-- What a builder call asks for, once its arguments are resolved. -/
inductive QueryEffect where
  | condition (e : Expr)
  /-- A sort key in place of any ordering before. -/
  | firstKey (key : SortKey)
  /-- One more sort key. -/
  | nextKey (key : SortKey)
  | columns (selection : Selection) (into : RowType)
  | skipped (count : Nat)
  | limit (limit : Limit)
  | deleted (enabled : Bool)
  | counted (enabled : Bool)
  | parameters (settings : List Component)

/-- Makes a builder call on a query. -/
def BuilderCall.apply : BuilderCall → TableQuery → Built TableQuery
  | filter predicate, q => q.filter predicate
  | orderBy key ascending, q => q.orderBy key ascending
  | thenBy key ascending, q => q.thenBy key ascending
  | select fields named into, q => q.select fields named into
  | skip count, q => q.skip count
  | take count, q => q.take count
  | includeDeleted enabled, q => .ok (q.includeDeleted enabled)
  | includeCount enabled, q => .ok (q.includeCount enabled)
  | withParameter name value, q => q.withParameter name value
  | withParameters entries, q => q.withParameters entries

/-- Makes builder calls one after the other; one that is refused leaves the query as it was. -/
def TableQuery.chain (q : TableQuery) (calls : List BuilderCall) : TableQuery :=
  calls.foldl (fun q call => (call.apply q).toOption.getD q) q

/-- An entry of a name and a text, as a component. -/
def settingOf (entry : Value × Value) : Option Component :=
  match entry.1.asName?, entry.2.asText? with
  | some name, some value => some (name, value)
  | _, _ => none

/-- The effect of setting the entries of a dictionary, none of which may be refused. -/
def parametersEffect (entries : List (Value × Value)) : Built QueryEffect :=
  (TableQuery.checkParameters entries).map fun _ =>
    .parameters ((TableQuery.distinctEntries entries).filterMap settingOf)

/-- The effect of a builder call, or what is wrong with its arguments. -/
def BuilderCall.effect : BuilderCall → Built QueryEffect
  | filter predicate => (predicate.toExpr "predicate").map .condition
  | orderBy key ascending => (key.toField "order key").map fun e => .firstKey ⟨e, ascending⟩
  | thenBy key ascending => (key.toField "order key").map fun e => .nextKey ⟨e, ascending⟩
  | select fields named into =>
    (TableQuery.checkSelection fields named).map fun selection => .columns selection into
  | skip count =>
    match count.asInt? with
    | some (.ofNat n) => .ok (.skipped n)
    | _ => .error (TableQuery.countFault .skipCount count)
  | take count =>
    match TableQuery.limit? count with
    | some limit => .ok (.limit limit)
    | none => .error (TableQuery.countFault .takeCount count)
  | includeDeleted enabled => .ok (.deleted enabled.isTruthy)
  | includeCount enabled => .ok (.counted enabled.isTruthy)
  | withParameter name value => parametersEffect [(name, value)]
  | withParameters entries => parametersEffect entries

/-- The effects of the calls that are not refused. -/
def effectsOf (calls : List BuilderCall) : List QueryEffect :=
  calls.filterMap fun call => call.effect.toOption

/-! ## The parts of a query -/

/-- The conjunction of conditions, nested to the left. -/
def conjunction : List Expr → Option Expr
  | [] => none
  | e :: rest => some (rest.foldl (.binary .and) e)

/-- The part of a list from the last element of a kind on, or all of it if there is none. -/
def fromLast {α : Type} (p : α → Bool) : List α → List α
  | [] => []
  | a :: rest => if rest.any p then fromLast p rest else a :: rest

/-- The names of settings, each at the place where it is set first. -/
def firstNames : List Component → List Name
  | [] => []
  | (name, _) :: rest => name :: (firstNames rest).filter fun n => n.text ≠ name.text

/-- The value that a name was set to most recently. -/
def lastValue (settings : List Component) (name : String) : String :=
  ((settings.filter fun setting => setting.1.text = name).getLast?.map Prod.snd).getD ""

/-- The parameters that settings come to. -/
def mergeSettings (settings : List Component) : List Component :=
  (firstNames settings).map fun name => (name, lastValue settings name.text)

namespace QueryEffect

def condition? : QueryEffect → Option Expr
  | condition e => some e
  | _ => none

def sortKey? : QueryEffect → Option SortKey
  | firstKey key => some key
  | nextKey key => some key
  | _ => none

def isFirstKey : QueryEffect → Bool
  | firstKey _ => true
  | _ => false

def columns? : QueryEffect → Option (Selection × RowType)
  | columns selection into => some (selection, into)
  | _ => none

def skipped? : QueryEffect → Option Nat
  | skipped count => some count
  | _ => none

def limit? : QueryEffect → Option Limit
  | limit given => some given
  | _ => none

def deleted? : QueryEffect → Option Bool
  | deleted enabled => some enabled
  | _ => none

def counted? : QueryEffect → Option Bool
  | counted enabled => some enabled
  | _ => none

def settings : QueryEffect → List Component
  | parameters settings => settings
  | _ => []

end QueryEffect

/-- What effects ask for together. -/
def specOf (effects : List QueryEffect) : QuerySpec where
  filter := conjunction (effects.filterMap QueryEffect.condition?)
  ordering := (fromLast QueryEffect.isFirstKey effects).filterMap QueryEffect.sortKey?
  selection := (effects.filterMap QueryEffect.columns?).getLast?.map Prod.fst
  skip := (effects.filterMap QueryEffect.skipped?).sum
  take := (effects.filterMap QueryEffect.limit?).argmin Limit.count
  includeDeleted := (effects.filterMap QueryEffect.deleted?).getLast?.getD false
  includeCount := (effects.filterMap QueryEffect.counted?).getLast?.getD false
  parameters := mergeSettings (effects.flatMap QueryEffect.settings)

/-- The query that effects make. -/
def TableQuery.ofEffects (row : RowType) (naming : Naming) (table : Option String)
    (effects : List QueryEffect) : TableQuery where
  row := row
  spec := specOf effects
  into := ((effects.filterMap QueryEffect.columns?).getLast?.map Prod.snd).getD .untyped
  naming := naming
  table := table

/-! ## One more effect -/

/-- The parameters after some settings, one after the other. -/
def setAll (settings parameters : List Component) : List Component :=
  settings.foldl (fun acc entry => setComponent entry.1 entry.2 acc) parameters

/-- The query with one more effect. -/
def QueryEffect.on (q : TableQuery) : QueryEffect → TableQuery
  | condition e => q.withSpec fun spec =>
    { spec with filter := some (spec.filter.elim e fun current => .binary .and current e) }
  | firstKey key => q.withSpec fun spec => { spec with ordering := [key] }
  | nextKey key => q.withSpec fun spec => { spec with ordering := spec.ordering ++ [key] }
  | columns selection into =>
    { q.withSpec fun spec => { spec with selection := some selection } with into := into }
  | skipped count => q.withSpec fun spec => { spec with skip := spec.skip + count }
  | limit given => q.withSpec fun spec =>
    { spec with take := some (spec.take.elim given fun current =>
        if given.count < current.count then given else current) }
  | deleted enabled => q.withSpec fun spec => { spec with includeDeleted := enabled }
  | counted enabled => q.withSpec fun spec => { spec with includeCount := enabled }
  | parameters settings => q.withSpec fun spec =>
    { spec with parameters := setAll settings spec.parameters }

theorem conjunction_concat (es : List Expr) (e : Expr) :
    conjunction (es ++ [e]) =
      some ((conjunction es).elim e fun current => .binary .and current e) := by
  cases es with
  | nil => rfl
  | cons first rest => simp [conjunction, List.foldl_append]

/-- Of limits with the same number, the first one stays. -/
theorem argmin_count_concat (limits : List Limit) (limit : Limit) :
    (limits ++ [limit]).argmin Limit.count =
      some ((limits.argmin Limit.count).elim limit fun current =>
        if limit.count < current.count then limit else current) := by
  rw [List.argmin_concat]
  cases limits.argmin Limit.count with
  | none => rfl
  | some current =>
      dsimp only [Option.elim_some]
      split <;> rfl

theorem fromLast_concat_of_pos
    {α : Type} {p : α → Bool} {a : α} (ha : p a = true) (as : List α) :
    fromLast p (as ++ [a]) = [a] := by
  induction as with
  | nil => rfl
  | cons first as ih =>
      have hlater : (as ++ [a]).any p = true := by simp [ha]
      rw [List.cons_append, fromLast, if_pos hlater, ih]

theorem fromLast_concat_of_neg
    {α : Type} {p : α → Bool} {a : α} (ha : p a = false) (as : List α) :
    fromLast p (as ++ [a]) = fromLast p as ++ [a] := by
  induction as with
  | nil => rfl
  | cons first as ih =>
      have hlater : (as ++ [a]).any p = as.any p := by simp [ha]
      rw [List.cons_append, fromLast, fromLast, hlater, ih]
      split <;> rfl

/-! ## Parameters -/

theorem any_firstNames (settings : List Component) (name : String) :
    ((firstNames settings).any fun n => n.text = name) =
      settings.any fun s => s.1.text = name := by
  induction settings with
  | nil => rfl
  | cons setting rest ih =>
      by_cases hname : setting.1.text = name
      · simp [firstNames, hname]
      · have hfilter : (((firstNames rest).filter fun n => n.text ≠ setting.1.text).any
            fun n => n.text = name) = (firstNames rest).any fun n => n.text = name := by
          rw [List.any_filter]
          congr 1
          funext n
          by_cases hn : n.text = name
          · simp [hn, Ne.symm hname]
          · simp [hn]
        rw [firstNames, List.any_cons, List.any_cons, hfilter, ih]

theorem firstNames_concat (settings : List Component) (name : Name) (value : String) :
    firstNames (settings ++ [(name, value)]) =
      firstNames settings ++
        if settings.any fun s => s.1.text = name.text then [] else [name] := by
  induction settings with
  | nil => rfl
  | cons setting rest ih =>
      rw [List.cons_append, firstNames, firstNames, ih, List.any_cons, List.filter_append,
        List.cons_append]
      by_cases hrest : (rest.any fun s => s.1.text = name.text) = true
      · simp [hrest]
      · by_cases hname : setting.1.text = name.text
        · simp [hrest, hname]
        · simp [hrest, hname, Ne.symm hname]

/-- No name is a first one twice. -/
theorem pairwise_firstNames (settings : List Component) :
    (firstNames settings).Pairwise fun m n => m.text ≠ n.text := by
  induction settings with
  | nil => exact .nil
  | cons setting rest ih =>
      refine .cons ?_ (ih.filter _)
      intro n hn
      simpa using Ne.symm (by simpa using (List.mem_filter.mp hn).2)

theorem lastValue_concat (settings : List Component) (name : Name) (value : String)
    (text : String) :
    lastValue (settings ++ [(name, value)]) text =
      if text = name.text then value else lastValue settings text := by
  by_cases h : text = name.text
  · simp [lastValue, h]
  · simp [lastValue, h, Ne.symm h]

/-- What setting a name does where each name stands at most once. -/
theorem setComponent_eq
    {parameters : List Component}
    (hdistinct : parameters.Pairwise fun c d => c.1.text ≠ d.1.text)
    (name : Name) (value : String) :
    setComponent name value parameters =
      (parameters.map fun c => if c.1.text = name.text then (c.1, value) else c) ++
        if parameters.any fun c => c.1.text = name.text then [] else [(name, value)] := by
  induction parameters with
  | nil => rfl
  | cons parameter rest ih =>
      obtain ⟨hothers, hrest⟩ := List.pairwise_cons.mp hdistinct
      rw [setComponent]
      by_cases hname : parameter.1.text = name.text
      · have hkept : rest.map (fun c => if c.1.text = name.text then (c.1, value) else c) =
            rest := by
          refine (List.map_congr_left fun c hc => ?_).trans (List.map_id rest)
          rw [hname] at hothers
          rw [if_neg (Ne.symm (hothers c hc)), id_eq]
        simp [hname, hkept]
      · rw [if_neg hname, ih hrest, List.map_cons, if_neg hname, List.any_cons,
          decide_eq_false hname, Bool.false_or, List.cons_append]

/-- Merging one more setting sets its name. -/
theorem mergeSettings_concat (settings : List Component) (name : Name) (value : String) :
    mergeSettings (settings ++ [(name, value)]) =
      setComponent name value (mergeSettings settings) := by
  have hdistinct : (mergeSettings settings).Pairwise fun c d => c.1.text ≠ d.1.text :=
    List.pairwise_map.mpr (pairwise_firstNames settings)
  have hany : ((mergeSettings settings).any fun c => c.1.text = name.text) =
      settings.any fun s => s.1.text = name.text := by
    rw [mergeSettings, List.any_map, ← any_firstNames]
    rfl
  rw [setComponent_eq hdistinct, hany, mergeSettings, firstNames_concat, List.map_append]
  congr 1
  · rw [mergeSettings, List.map_map]
    refine List.map_congr_left fun n _ => ?_
    rw [lastValue_concat, Function.comp_apply]
    split <;> rfl
  · split
    · rfl
    · rw [List.map_singleton, lastValue_concat, if_pos rfl]

theorem mergeSettings_append (settings given : List Component) :
    mergeSettings (settings ++ given) = setAll given (mergeSettings settings) := by
  induction given generalizing settings with
  | nil => simp [setAll]
  | cons setting given ih =>
      rw [List.append_cons, ih, mergeSettings_concat]
      rfl

/-! ## Chains -/

theorem filterMap_concat {α β : Type} (f : α → Option β) (as : List α) (a : α) :
    (as ++ [a]).filterMap f = as.filterMap f ++ (f a).toList := by
  cases h : f a <;> simp [h]

theorem ordering_concat (effects : List QueryEffect) (effect : QueryEffect) :
    (fromLast QueryEffect.isFirstKey (effects ++ [effect])).filterMap QueryEffect.sortKey? =
      (if effect.isFirstKey then []
        else (fromLast QueryEffect.isFirstKey effects).filterMap QueryEffect.sortKey?) ++
        effect.sortKey?.toList := by
  cases hfirst : effect.isFirstKey with
  | true => cases hkey : effect.sortKey? <;> simp [fromLast_concat_of_pos hfirst, hkey]
  | false => cases hkey : effect.sortKey? <;> simp [fromLast_concat_of_neg hfirst, hkey]

/-- One more effect changes its own part of the query, and no other. -/
theorem ofEffects_concat (row : RowType) (naming : Naming) (table : Option String)
    (effects : List QueryEffect) (effect : QueryEffect) :
    TableQuery.ofEffects row naming table (effects ++ [effect]) =
      effect.on (TableQuery.ofEffects row naming table effects) := by
  simp only [TableQuery.ofEffects, specOf, filterMap_concat, ordering_concat,
    List.flatMap_append, mergeSettings_append]
  cases effect <;>
    simp [QueryEffect.on, TableQuery.withSpec, conjunction_concat, argmin_count_concat, setAll,
      QueryEffect.condition?, QueryEffect.sortKey?, QueryEffect.isFirstKey, QueryEffect.columns?,
      QueryEffect.skipped?, QueryEffect.limit?, QueryEffect.deleted?, QueryEffect.counted?,
      QueryEffect.settings]

theorem asText?_of_filledText?
    {v : Value} {s : String} (h : TableQuery.filledText? v = some s) : v.asText? = some s :=
  (Option.filter_eq_some_iff.mp h).1

theorem asName?_of_filledName?
    {v : Value} {name : Name} (h : TableQuery.filledName? v = some name) :
    v.asName? = some name :=
  (Option.filter_eq_some_iff.mp h).1

theorem settingOf_of_checkParameter
    (entry : Value × Value) (setting : Component)
    (h : TableQuery.checkParameter entry = .ok setting) : settingOf entry = some setting := by
  rw [TableQuery.checkParameter] at h
  split at h
  · cases h
  · cases h
  · next name value hname hvalue =>
      split at h
      · cases h
      · cases h
        rw [settingOf, asName?_of_filledName? hname, asText?_of_filledText? hvalue]

/-- The parameters that pass their check are the entries of the dictionary. -/
theorem checkParameters_eq_ok
    {entries : List (Value × Value)} {given : List Component}
    (h : TableQuery.checkParameters entries = .ok given) :
    (TableQuery.distinctEntries entries).filterMap settingOf = given := by
  rw [TableQuery.checkParameters] at h
  split at h
  · cases h
  · split at h
    · cases h
    · exact filterMap_of_mapM_ok settingOf_of_checkParameter h

/-- Setting parameters has their effect. -/
theorem withParameters_eq (q : TableQuery) (entries : List (Value × Value)) :
    q.withParameters entries = (parametersEffect entries).map fun effect => effect.on q := by
  rw [TableQuery.withParameters, parametersEffect]
  cases hcheck : TableQuery.checkParameters entries with
  | error fault => rfl
  | ok given =>
      rw [← checkParameters_eq_ok hcheck]
      rfl

/-- A call has its effect on every query, or it is refused on every query. -/
theorem BuilderCall.apply_eq (call : BuilderCall) (q : TableQuery) :
    call.apply q = call.effect.map fun effect => effect.on q := by
  cases call with
  | filter predicate =>
      rw [apply, effect, TableQuery.filter]
      cases predicate.toExpr "predicate" with
      | error fault => rfl
      | ok e => cases hfilter : q.spec.filter <;> simp [Except.map, QueryEffect.on,
          TableQuery.withSpec, hfilter]
  | orderBy key ascending =>
      rw [apply, effect, TableQuery.orderBy]
      cases key.toField "order key" <;> rfl
  | thenBy key ascending =>
      rw [apply, effect, TableQuery.thenBy]
      cases key.toField "order key" <;> rfl
  | select fields named into =>
      rw [apply, effect, TableQuery.select]
      cases TableQuery.checkSelection fields named <;> rfl
  | skip count =>
      rw [apply, effect, TableQuery.skip]
      rcases count.asInt? with _ | n | n <;> rfl
  | take count =>
      rw [apply, effect, TableQuery.take]
      cases TableQuery.limit? count with
      | none => rfl
      | some limit =>
          cases htake : q.spec.take <;>
            simp [Except.map, QueryEffect.on, TableQuery.withSpec, htake]
  | includeDeleted enabled => rfl
  | includeCount enabled => rfl
  | withParameter name value => exact withParameters_eq q [(name, value)]
  | withParameters entries => exact withParameters_eq q entries

/-- A chain of calls adds the effects of those that are not refused. -/
theorem chain_ofEffects
    (row : RowType) (naming : Naming) (table : Option String) (effects : List QueryEffect)
    (calls : List BuilderCall) :
    (TableQuery.ofEffects row naming table effects).chain calls =
      TableQuery.ofEffects row naming table (effects ++ effectsOf calls) := by
  induction calls generalizing effects with
  | nil => rw [effectsOf, List.filterMap_nil, List.append_nil]; rfl
  | cons call calls ih =>
      have happly := call.apply_eq (TableQuery.ofEffects row naming table effects)
      rw [TableQuery.chain, List.foldl_cons, happly]
      cases heffect : call.effect with
      | error fault =>
          have hnone : effectsOf (call :: calls) = effectsOf calls := by
            simp [effectsOf, heffect, Except.toOption]
          rw [hnone]
          exact ih effects
      | ok effect =>
          have hone : effectsOf (call :: calls) = effect :: effectsOf calls := by
            simp [effectsOf, heffect, Except.toOption]
          rw [hone, List.append_cons, ← ih, ofEffects_concat]
          rfl

/-- A chain of calls on a query for every item has the effects of those that are not refused. -/
theorem chain_eq_ofEffects
    (row : RowType) (naming : Naming) (table : Option String) (calls : List BuilderCall) :
    (TableQuery.all row naming table).chain calls =
      TableQuery.ofEffects row naming table (effectsOf calls) :=
  chain_ofEffects row naming table [] calls

/-- No call changes the table of a query. -/
theorem TableQuery.table_chain
    (row : RowType) (naming : Naming) (table : Option String) (calls : List BuilderCall) :
    ((all row naming table).chain calls).table = table := by
  rw [chain_eq_ofEffects]
  rfl

end PagedTables
