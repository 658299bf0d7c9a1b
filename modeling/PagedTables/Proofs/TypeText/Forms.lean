import PagedTables.Proofs.Result
import PagedTables.TypeText.Evaluation

/-!
# Forms of types

A type is most often written with names, quoted texts, brackets, commas and bars. Such a text binds
no names, and what it stands for depends on nothing but its names. So its meaning is the same among
the attributes of every record type, and after whatever other texts bind, as long as none of its
names is hidden.
-/
namespace PagedTables.TypeText

/-! ## Steps that depend on some names only -/

/-- What a name stands for in some surroundings and after what was bound. -/
def Surroundings.found? (around : Surroundings) (a : Assigned) (name : String) : Option Meaning :=
  (a.inFunction ++ (a.outside ++ around.place) ++ a.inComprehensions ++ around.members).lookup name
    <|> Meaning.known? name

/-- Each of the names stands for what it is said to stand for. -/
def Stand (own : String → Option Meaning) (free : String → Prop) (around : Surroundings)
    (a : Assigned) : Prop :=
  ∀ name, free name → around.found? a name = own name

/--
A step that binds nothing and has one result, wherever the names stand for what they are said to.
The result, if there is one, is of some kind.
-/
def Steady {α : Type} (own : String → Option Meaning) (free : String → Prop) (kind : α → Prop)
    (step : Surroundings → Reading α) : Prop :=
  ∃ result : Found α, (∀ x, result = .ok x → kind x) ∧
    ∀ around a, Stand own free around a → (step around).run a = result.map (·, a)

namespace Steady

variable {α β : Type} {own : String → Option Meaning} {free : String → Prop} {kind : α → Prop}
  {kind' : β → Prop}

theorem lift {found : Found α} (h : ∀ x, found = .ok x → kind x) :
    Steady own free kind fun _ => liftM found := by
  refine ⟨found, h, fun around a _ => ?_⟩
  cases found <;> rfl

/-- What is found without any names is found everywhere. -/
theorem ofFound (found : Found α) : Steady own free (fun _ => True) fun _ => liftM found :=
  lift fun _ _ => trivial

theorem pure {x : α} (h : kind x) : Steady own free kind fun _ => Pure.pure x :=
  ⟨.ok x, by rintro _ ⟨⟩; exact h, fun _ _ _ => rfl⟩

theorem throw (flaw : Flaw) : Steady own free kind fun _ => throw flaw :=
  ⟨.error flaw, nofun, fun _ _ _ => rfl⟩

theorem bind {step : Surroundings → Reading α} {next : Surroundings → α → Reading β}
    (hstep : Steady own free kind step)
    (hnext : ∀ x, kind x → Steady own free kind' fun around => next around x) :
    Steady own free kind' fun around => step around >>= next around := by
  obtain ⟨result, hkind, hresult⟩ := hstep
  cases result with
  | error flaw =>
      refine ⟨.error flaw, nofun, fun around a ha => ?_⟩
      rw [StateT.run_bind, hresult around a ha]
      rfl
  | ok x =>
      obtain ⟨result', hkind', hresult'⟩ := hnext x (hkind x rfl)
      refine ⟨result', hkind', fun around a ha => ?_⟩
      rw [StateT.run_bind, hresult around a ha]
      exact hresult' around a ha

theorem mono {wider : α → Prop} {step : Surroundings → Reading α} (h : Steady own free kind step)
    (hwider : ∀ x, kind x → wider x) : Steady own free wider step := by
  obtain ⟨result, hkind, hresult⟩ := h
  exact ⟨result, fun x hx => hwider x (hkind x hx), hresult⟩

theorem mapM {as : List α} {f : Surroundings → α → Reading β}
    (h : ∀ a ∈ as, Steady own free kind' fun around => f around a) :
    Steady own free (fun bs => ∀ b ∈ bs, kind' b) fun around => as.mapM (f around) := by
  induction as with
  | nil => exact pure (by simp)
  | cons a as ih =>
      obtain ⟨ha, has⟩ := List.forall_mem_cons.mp h
      simp only [List.mapM_cons]
      exact ha.bind fun b hb => (ih has).bind fun bs hbs =>
        pure (List.forall_mem_cons.mpr ⟨hb, hbs⟩)

end Steady

/-! ## Forms -/

/-- Null, a type, a way to build types, or some other single object. -/
def Meaning.isSingle : Meaning → Bool
  | nothing => true
  | named _ => true
  | builder _ => true
  | object .. => true
  | _ => false

/-- An expression of a type that is written with some names. -/
inductive Tree.IsTypeForm (own : String → Option Meaning) (free : String → Prop) : Tree → Prop
  | name {s : String} (hfree : free s)
      (hsingle : ∀ m, own s = some m → m.isSingle = true) : IsTypeForm own free (.name s)
  | nothing : IsTypeForm own free .nothing
  | ellipsis : IsTypeForm own free .ellipsis
  | plain {s : String} (h : ∀ t, Meaning.tree? s = some t → IsTypeForm own free t) :
      IsTypeForm own free (.plain s)
  | subscript {s : String} {index : Tree} (hhead : IsTypeForm own free (.name s))
      (hindex : IsTypeForm own free index) : IsTypeForm own free (.subscript (.name s) index)
  | bar {left right : Tree} (hleft : IsTypeForm own free left)
      (hright : IsTypeForm own free right) : IsTypeForm own free (.binary .bar left right)
  | tuple {ts : List Tree} (h : ∀ t ∈ ts, IsTypeForm own free t) : IsTypeForm own free (.tuple ts)
  | list {ts : List Tree} (h : ∀ t ∈ ts, IsTypeForm own free t) : IsTypeForm own free (.list ts)

/-- A text spells a type with some names, if it is an expression. -/
def SpellsType (own : String → Option Meaning) (free : String → Prop) (s : String) : Prop :=
  ∀ t, Meaning.tree? s = some t → t.IsTypeForm own free

/-- The expression is made of some names, of null, brackets and bars. -/
def Tree.isPlainForm (names : List String) : Tree → Bool
  | name s => names.contains s
  | nothing => true
  | subscript x index => (match x with | name _ => true | _ => false) && x.isPlainForm names &&
      index.isPlainForm names
  | binary op left right => op = .bar && left.isPlainForm names && right.isPlainForm names
  | _ => false

theorem Tree.isTypeForm_of_isPlainForm {own : String → Option Meaning} {names : List String}
    (hsingle : ∀ s ∈ names, ∀ m, own s = some m → m.isSingle = true) {t : Tree}
    (h : t.isPlainForm names = true) : t.IsTypeForm own (· ∈ names) := by
  fun_induction Tree.isPlainForm names t with
  | case1 s =>
      have hs : s ∈ names := by simpa using h
      exact .name hs (hsingle s hs)
  | case2 => exact .nothing
  | case3 x index ihx ihindex =>
      simp only [Bool.and_eq_true] at h
      obtain ⟨⟨hname, hx⟩, hindex⟩ := h
      cases x with
      | name s => exact .subscript (ihx hx) (ihindex hindex)
      | _ => cases hname
  | case4 op left right ihleft ihright =>
      simp only [Bool.and_eq_true, decide_eq_true_eq] at h
      obtain ⟨⟨rfl, hleft⟩, hright⟩ := h
      exact .bar (ihleft hleft) (ihright hright)
  | case5 => cases h

/-- A meaning whose texts spell types with some names. -/
inductive Meaning.HoldsForms (own : String → Option Meaning) (free : String → Prop) :
    Meaning → Prop
  | single {m : Meaning} (h : m.isSingle = true) : HoldsForms own free m
  | text {s : String} (h : SpellsType own free s) : HoldsForms own free (.ofText s)
  | quoted {s : String} (h : SpellsType own free s) : HoldsForms own free (.quoted s)
  | applied {head : String} {ms : List Meaning} (h : ∀ m ∈ ms, HoldsForms own free m) :
      HoldsForms own free (.applied head ms)
  | anyOf {ms : List Meaning} (h : ∀ m ∈ ms, HoldsForms own free m) :
    HoldsForms own free (.anyOf ms)
  | barred {ms : List Meaning} (h : ∀ m ∈ ms, HoldsForms own free m) :
    HoldsForms own free (.barred ms)
  | annotated {m : Meaning} {notes : List Meaning} (h : HoldsForms own free m) :
      HoldsForms own free (.annotated m notes)
  | tuple {ms : List Meaning} (h : ∀ m ∈ ms, HoldsForms own free m) :
    HoldsForms own free (.tuple ms)
  | list {ms : List Meaning} (h : ∀ m ∈ ms, HoldsForms own free m) : HoldsForms own free (.list ms)

/-! ## Operations on meanings -/

namespace Meaning

variable {own : String → Option Meaning} {free : String → Prop} {m left right index : Meaning}
  {ms : List Meaning}

theorem HoldsForms.spellsType_of_asText? (h : m.HoldsForms own free) {s : String}
    (hs : m.asText? = some s) : SpellsType own free s := by
  cases h with
  | single hsingle => cases m <;> simp [isSingle, asText?] at hsingle hs
  | text hs' =>
      obtain rfl := Option.some.inj hs
      exact hs'
  | _ => cases hs

theorem holdsForms_of_quote {s : String} (hs : SpellsType own free s) (h : quote s = .ok m) :
    m.HoldsForms own free := by
  unfold quote at h
  split at h
  · cases h
  · split at h
    · cases h
    · split at h
      · cases h
        exact .quoted hs
      · cases h

theorem holdsForms_of_asType {m' : Meaning} (hm : m.HoldsForms own free) (h : m.asType = .ok m') :
    m'.HoldsForms own free := by
  unfold asType at h
  split at h
  · cases h
    exact .single rfl
  · cases h
    exact hm
  · cases h
  · cases h
  · split at h
    · next hs => exact holdsForms_of_quote (hm.spellsType_of_asText? hs) h
    · cases h
      exact hm

theorem holdsForms_asArguments (hm : m.HoldsForms own free) :
    ∀ x ∈ m.asArguments, x.HoldsForms own free := by
  unfold asArguments
  split
  · cases hm with
    | single hsingle => cases hsingle
    | tuple h => exact h
  · exact List.forall_mem_singleton.mpr hm

theorem holdsForms_opened (h : ∀ m ∈ ms, m.HoldsForms own free) :
    ∀ m ∈ opened ms, m.HoldsForms own free := by
  intro m hm
  obtain ⟨outer, houter, hm⟩ := List.mem_flatMap.mp hm
  have hforms := h outer houter
  split at hm
  · cases hforms with
    | single hsingle => cases hsingle
    | anyOf hinner => exact hinner m hm
  · cases hforms with
    | single hsingle => cases hsingle
    | barred hinner => exact hinner m hm
  · rwa [List.mem_singleton.mp hm]

theorem mem_of_mem_distinct (h : m ∈ distinct ms) : m ∈ ms := by
  have hseen (xs seen : List Meaning) :
      ∀ x ∈ xs.foldl (fun seen x => if seen.any (same x) then seen else x :: seen) seen,
        x ∈ seen ∨ x ∈ xs := by
    induction xs generalizing seen with
    | nil => exact fun x hx => .inl hx
    | cons first rest ih =>
        intro x hx
        rw [List.foldl_cons] at hx
        rcases ih _ x hx with hx | hx
        · split at hx
          · exact .inl hx
          · rcases List.mem_cons.mp hx with rfl | hx
            · exact .inr List.mem_cons_self
            · exact .inl hx
        · exact .inr (List.mem_cons_of_mem first hx)
  rcases hseen ms [] m (List.mem_reverse.mp h) with hnone | hmem
  · cases hnone
  · exact hmem

theorem holdsForms_of_mapM_asType {ms' : List Meaning} (hms : ∀ m ∈ ms, m.HoldsForms own free)
    (h : ms.mapM asType = .ok ms') : ∀ m ∈ ms', m.HoldsForms own free := by
  intro m hm
  obtain ⟨m', hm', htyped⟩ := exists_of_mem_mapM_ok h hm
  exact holdsForms_of_asType (hms m' hm') htyped

theorem holdsForms_of_union (hms : ∀ m ∈ ms, m.HoldsForms own free) (h : union ms = .ok m) :
    m.HoldsForms own free := by
  obtain ⟨typed, htyped, h⟩ := bind_eq_ok.mp h
  have hopened : ∀ m ∈ distinct (opened typed), m.HoldsForms own free := fun m hm =>
    holdsForms_opened (holdsForms_of_mapM_asType hms htyped) m (mem_of_mem_distinct hm)
  dsimp only at h
  split at h
  · cases h
  · split at h
    · cases h
    · next hone =>
        cases h
        exact hopened m (by simp [hone])
    · cases h
      exact .anyOf hopened

theorem holdsForms_of_bar (hleft : left.HoldsForms own free) (hright : right.HoldsForms own free)
    (h : bar left right = .ok m) : m.HoldsForms own free := by
  have hboth : ∀ m ∈ [left, right], m.HoldsForms own free := by simp [hleft, hright]
  unfold bar at h
  split at h
  · cases h
  · split at h
    · extract_lets typed at h
      have htyped : ∀ m ∈ distinct ((opened [left, right]).map typed), m.HoldsForms own free := by
        intro m hm
        obtain ⟨m', hm', rfl⟩ := List.mem_map.mp (mem_of_mem_distinct hm)
        have hforms := holdsForms_opened hboth m' hm'
        cases m' with
        | nothing => exact .single rfl
        | _ => exact hforms
      split at h
      · next hone =>
          cases h
          exact htyped m (by simp [hone])
      · cases h
        exact .barred htyped
    · split at h
      · exact holdsForms_of_union hboth h
      · cases h

theorem HoldsForms.whole?_eq_none (h : m.HoldsForms own free) : m.whole? = none := by
  cases h with
  | single hsingle => cases m <;> simp [isSingle, whole?] at hsingle ⊢
  | _ => rfl

/-- Neither numbers nor sets hold texts of types, so that a bar is one between types. -/
theorem holdsForms_of_join (hleft : left.HoldsForms own free) (hright : right.HoldsForms own free)
    (h : join left right = .ok m) : m.HoldsForms own free := by
  unfold join at h
  split at h
  · cases hleft with
    | single hsingle => cases hsingle
  · split at h
    · unfold bits at h
      split at h
      · next hbools =>
          unfold bools? at hbools
          split at hbools
          · cases hleft.whole?_eq_none
          · cases hbools
      · next hwhole _ => cases hleft.whole?_eq_none.symm.trans hwhole
      · split at h
        · cases hleft with
          | single hsingle => cases hsingle
        · cases h
    · exact holdsForms_of_bar hleft hright h

/-- Of single objects only types and ways to build types go with brackets. -/
theorem holdsForms_of_entry {result : Meaning} (hm : m.isSingle = true)
    (hindex : index.HoldsForms own free) (h : m.entry index = .ok result) :
    result.HoldsForms own free := by
  have hentry : m.entry index = m.apply index := by
    cases m <;> first | rfl | cases hm
  have hnull : HoldsForms own free nullType := .single rfl
  rw [hentry] at h
  unfold apply at h
  split at h
  · obtain ⟨typed, htyped, h⟩ := bind_eq_ok.mp h
    refine holdsForms_of_union ?_ h
    simp [holdsForms_of_asType hindex htyped, hnull]
  · exact holdsForms_of_union (holdsForms_asArguments hindex) h
  · obtain ⟨typed, htyped, h⟩ := bind_eq_ok.mp h
    have htyped := holdsForms_of_mapM_asType (holdsForms_asArguments hindex) htyped
    split at h
    · cases h
      exact .applied htyped
    · cases h
  · split at h
    · cases h
      exact .applied (holdsForms_asArguments hindex)
    · cases h
  · cases h

end Meaning

/-! ## Evaluation -/

variable {own : String → Option Meaning} {free : String → Prop}

theorem lookup_whole {around : Surroundings} {a : Assigned} (h : Stand own free around a)
    {name : String} (hfree : free name) :
    ((Scope.whole around).lookup name).run a =
      Except.map (·, a) ((own name).elim (Except.error Flaw.senseless) Except.ok) := by
  have hfound : (([] ++ a.inFunction ++ [] ++ (a.outside ++ around.place) ++ a.inComprehensions ++
      around.members).lookup name <|> Meaning.known? name) = own name := by
    rw [List.nil_append, List.append_nil]
    exact h name hfree
  have hlookup : ((Scope.whole around).lookup name).run a =
      StateT.run ((([] ++ a.inFunction ++ [] ++ (a.outside ++ around.place) ++
        a.inComprehensions ++ around.members).lookup name <|> Meaning.known? name).elim
          (throw .senseless) pure) a := rfl
  rw [hlookup, hfound]
  cases own name <;> rfl

theorem steady_name {s : String} (hs : (Tree.name s).IsTypeForm own free) (fuel : Nat) :
    Steady own free (fun m => m.isSingle = true) fun around =>
      (Tree.name s).eval fuel (.whole around) := by
  cases hs with
  | name hfree hsingle =>
      cases fuel with
      | zero =>
        simp only [Tree.eval]
        exact .throw _
      | succ fuel =>
          simp only [Tree.eval]
          refine ⟨_, fun m hm => hsingle m ?_, fun around a ha => lookup_whole ha hfree⟩
          cases hown : own s with
          | none => simp [hown] at hm
          | some m' => simpa [hown] using hm

/-- None of the elements is one that has to be unpacked. -/
theorem steady_elements {ts : List Tree} (hts : ∀ t ∈ ts, t.IsTypeForm own free) {fuel : Nat}
    (h : ∀ t ∈ ts, Steady own free (Meaning.HoldsForms own free) fun around =>
      t.eval fuel (.whole around)) :
    Steady own free (fun ms => ∀ m ∈ ms, Meaning.HoldsForms own free m) fun around => do
      let parts ← ts.mapM fun t => match t with
        | .starred t => do (← t.eval fuel (.whole around)).elements
        | t => do return [← t.eval fuel (.whole around)]
      return parts.flatten := by
  have hparts : Steady own free
      (fun parts => ∀ part ∈ parts, ∀ m ∈ part, Meaning.HoldsForms own free m)
      fun around => ts.mapM fun t => match t with
        | .starred t => do (← t.eval fuel (.whole around)).elements
        | t => do return [← t.eval fuel (.whole around)] := by
    refine .mapM fun t ht => ?_
    have hform := hts t ht
    have hstep : Steady own free (fun ms => ∀ m ∈ ms, Meaning.HoldsForms own free m)
        fun around => do return [← t.eval fuel (.whole around)] :=
      (h t ht).bind fun m hm => .pure (List.forall_mem_singleton.mpr hm)
    cases hform <;> exact hstep
  refine hparts.bind fun parts hparts => .pure fun m hm => ?_
  obtain ⟨part, hpart, hm⟩ := List.mem_flatten.mp hm
  exact hparts part hpart m hm

theorem steady_eval {t : Tree} (ht : t.IsTypeForm own free) (fuel : Nat) :
    Steady own free (Meaning.HoldsForms own free) fun around => t.eval fuel (.whole around) := by
  induction fuel generalizing t with
  | zero =>
      simp only [Tree.eval]
      exact .throw _
  | succ fuel ih =>
      cases ht with
      | name hfree hsingle => exact (steady_name (.name hfree hsingle) _).mono fun m => .single
      | nothing =>
          simp only [Tree.eval]
          exact .pure (.single rfl)
      | ellipsis =>
          simp only [Tree.eval]
          exact .pure (.single rfl)
      | plain h =>
          simp only [Tree.eval]
          exact .pure (.text h)
      | @subscript s index hhead hindex =>
          have hwhole (around : Surroundings) :
              (Tree.subscript (.name s) index).eval (fuel + 1) (.whole around) =
                (Tree.name s).eval fuel (.whole around) >>= fun m =>
                  index.eval fuel (.whole around) >>= fun i => liftM (m.entry i) := by
            cases hindex <;> simp only [Tree.eval]
          simp only [hwhole]
          refine (steady_name hhead fuel).bind fun m hm => (ih hindex).bind fun i hi => ?_
          exact .lift fun x hx => Meaning.holdsForms_of_entry hm hi hx
      | bar hleft hright =>
          simp only [Tree.eval]
          refine (ih hleft).bind fun m hm => (ih hright).bind fun m' hm' => ?_
          exact .lift fun x hx => Meaning.holdsForms_of_join hm hm' hx
      | tuple h =>
          simp only [Tree.eval]
          exact (steady_elements h fun t ht => ih (h t ht)).bind fun ms hms => .pure (.tuple hms)
      | list h =>
          simp only [Tree.eval]
          exact (steady_elements h fun t ht => ih (h t ht)).bind fun ms hms => .pure (.list hms)

/-! ## Texts in the places of types -/

theorem steady_bars (ms : List Meaning) (first : Meaning) :
    Steady own free (fun _ => True) fun _ => ms.foldlM (fun acc m => acc.bar m) first := by
  induction ms generalizing first with
  | nil => exact .pure trivial
  | cons m ms ih =>
      simp only [List.foldlM_cons]
      exact (Steady.ofFound _).bind fun next _ => ih next

/-- Each text that is followed spells a type in its turn. -/
theorem steady_resolve (fuel : Nat) (seen : List String) {m : Meaning}
    (hm : m.HoldsForms own free) :
    Steady own free (fun _ => True) fun around => resolve (.whole around) fuel seen m := by
  induction fuel generalizing seen m with
  | zero =>
      simp only [resolve]
      exact .throw _
  | succ fuel ih =>
      have hall {ms : List Meaning} (hms : ∀ m ∈ ms, m.HoldsForms own free) :
          Steady own free (fun _ => True) fun around =>
            ms.mapM (resolve (.whole around) fuel seen) :=
        (Steady.mapM fun m hm => ih seen (hms m hm)).mono fun _ _ => trivial
      cases hm with
      | single hsingle =>
          cases m with
          | nothing => exact .pure trivial
          | named => exact .pure trivial
          | builder => exact .pure trivial
          | object => exact .pure trivial
          | _ => cases hsingle
      | text => exact .pure trivial
      | tuple => exact .pure trivial
      | list => exact .pure trivial
      | @quoted s hs =>
          simp only [resolve]
          split
          · exact .pure trivial
          · cases htree : Meaning.tree? s with
            | none => exact .throw _
            | some t =>
                refine (steady_eval (hs t htree) _).bind fun found hfound => ?_
                refine (Steady.lift fun x hx => Meaning.holdsForms_of_asType hfound hx).bind
                  fun x hx => ?_
                exact ih (s :: seen) hx
      | @applied head ms hms =>
          simp only [resolve]
          refine @Steady.bind _ _ own free (fun ms => ∀ m ∈ ms, Meaning.HoldsForms own free m) _ _ _
            (.mapM fun m hm => ?_) fun ms hms => (hall hms).bind fun _ _ => .pure trivial
          split
          · exact .pure (hms m hm)
          · next htext =>
              exact .lift fun x hx =>
                Meaning.holdsForms_of_quote ((hms m hm).spellsType_of_asText? htext) hx
          · exact .pure (hms m hm)
      | anyOf hms =>
          simp only [resolve]
          refine (hall hms).bind fun found _ => ?_
          split
          · exact .pure trivial
          · exact .ofFound _
      | barred hms =>
          simp only [resolve]
          refine (hall hms).bind fun found _ => ?_
          split
          · exact .pure trivial
          · cases found with
            | nil => exact .throw _
            | cons first rest => exact steady_bars rest first
      | annotated hm =>
          simp only [resolve]
          exact ih seen hm

/-- What a type stands for depends on nothing but the names in its texts. -/
theorem steady_typeMeaning {m : Meaning} (hm : m.HoldsForms own free) :
    Steady own free (fun _ => True) fun around => typeMeaning around m := by
  cases m with
  | nothing => exact .pure trivial
  | _ =>
      simp only [typeMeaning]
      exact steady_resolve maxTexts [] hm

/-- What a text stands for that spells a type depends on nothing but its names. -/
theorem steady_textMeaning {s : String} (hs : SpellsType own free s) :
    Steady own free (fun _ => True) fun around => textMeaning around s :=
  (Steady.lift fun _ hm => Meaning.holdsForms_of_quote hs hm).bind fun _ hm =>
    steady_resolve maxTexts [] hm

/-! ## Types without texts -/

/-- A type in which neither texts nor notes stand. -/
inductive Meaning.IsWhole : Meaning → Prop
  | single {m : Meaning} (h : m.isSingle = true) : IsWhole m
  | applied {head : String} {ms : List Meaning} (h : ∀ m ∈ ms, IsWhole m) :
      IsWhole (.applied head ms)
  | anyOf {ms : List Meaning} (h : ∀ m ∈ ms, IsWhole m) : IsWhole (.anyOf ms)
  | barred {ms : List Meaning} (h : ∀ m ∈ ms, IsWhole m) : IsWhole (.barred ms)

namespace Meaning

variable {m : Meaning} {ms : List Meaning}

theorem sameAll_self (h : ∀ m ∈ ms, m.same m = true) : sameAll ms ms = true := by
  induction ms with
  | nil => simp [sameAll]
  | cons m ms ih =>
      obtain ⟨hm, hms⟩ := List.forall_mem_cons.mp h
      rw [sameAll, hm, ih hms]
      rfl

theorem among_self (h : ∀ m ∈ ms, m.same m = true) :
    (allAmong ms ms && ms.all (anySame ms)) = true := by
  have hamong (xs : List Meaning) (hxs : xs ⊆ ms) : allAmong xs ms = true := by
    induction xs with
    | nil => simp [allAmong]
    | cons x xs ih =>
        obtain ⟨hx, hxs⟩ := List.cons_subset.mp hxs
        rw [allAmong, ih hxs, Bool.and_true, List.any_eq_true]
        exact ⟨x, hx, h x hx⟩
  have hsame (xs : List Meaning) {y : Meaning} (hy : y ∈ xs) (hself : y.same y = true) :
      anySame xs y = true := by
    induction xs with
    | nil => cases hy
    | cons x xs ih =>
        rw [anySame, Bool.or_eq_true]
        rcases List.mem_cons.mp hy with rfl | hy
        · exact .inl hself
        · exact .inr (ih hy)
  rw [Bool.and_eq_true, List.all_eq_true]
  exact ⟨hamong ms (List.Subset.refl ms), fun y hy => hsame ms hy (h y hy)⟩

theorem IsWhole.same_self (hm : m.IsWhole) : m.same m = true := by
  induction hm with
  | @single m h => cases m <;> simp_all [isSingle, same]
  | applied _ ih => simp [same, sameAll_self ih]
  | anyOf _ ih => rw [same, among_self ih]
  | barred _ ih => rw [same, among_self ih]

theorem IsWhole.asText?_eq_none (hm : m.IsWhole) : m.asText? = none := by
  cases hm with
  | single h => cases m <;> simp_all [isSingle, asText?]
  | _ => rfl

theorem eq_of_run_mapM {f : Meaning → Reading Meaning} {ms' : List Meaning} {a a' : Assigned}
    (hf : ∀ m ∈ ms, ∀ a m' a', (f m).run a = .ok (m', a') → m' = m)
    (h : (ms.mapM f).run a = .ok (ms', a')) : ms' = ms := by
  induction ms generalizing ms' a with
  | nil =>
      cases h
      rfl
  | cons m ms ih =>
      obtain ⟨hm, hms⟩ := List.forall_mem_cons.mp hf
      rw [List.mapM_cons] at h
      obtain ⟨m', mid, hfirst, h⟩ := run_bind_eq_ok.mp h
      obtain ⟨rest, last, hrest, h⟩ := run_bind_eq_ok.mp h
      cases h
      rw [hm _ _ _ hfirst, ih hms hrest]

/-- Without texts and notes nothing is replaced. -/
theorem eq_of_run_resolve {scope : Scope} (fuel : Nat) (seen : List String) {a a' : Assigned}
    {m' : Meaning} (hm : m.IsWhole) (h : (resolve scope fuel seen m).run a = .ok (m', a')) :
    m' = m := by
  induction fuel generalizing m m' a a' with
  | zero => cases h
  | succ fuel ih =>
      have hall {ms ms' : List Meaning} (hms : ∀ m ∈ ms, m.IsWhole) {a a' : Assigned}
          (hrun : (ms.mapM (resolve scope fuel seen)).run a = .ok (ms', a')) : ms' = ms :=
        eq_of_run_mapM (fun m hm _ _ _ hone => ih (hms m hm) hone) hrun
      cases hm with
      | single hsingle =>
          cases m with
          | nothing =>
              cases h
              rfl
          | named =>
              cases h
              rfl
          | builder =>
              cases h
              rfl
          | object =>
              cases h
              rfl
          | _ => cases hsingle
      | @applied head ms hms =>
          simp only [resolve] at h
          obtain ⟨quoted, mid, hquoted, h⟩ := run_bind_eq_ok.mp h
          obtain ⟨found, last, hfound, h⟩ := run_bind_eq_ok.mp h
          cases h
          have hkept : quoted = ms := by
            refine eq_of_run_mapM (fun m hm a m' a' hone => ?_) hquoted
            have hnone := (hms m hm).asText?_eq_none
            split at hone
            · cases hone
              rfl
            · next htext _ =>
                rw [hnone] at htext
                cases htext
            · cases hone
              rfl
          rw [hkept] at hfound
          rw [hall hms hfound]
      | anyOf hms =>
          simp only [resolve] at h
          obtain ⟨found, mid, hfound, h⟩ := run_bind_eq_ok.mp h
          rw [hall hms hfound, if_pos (sameAll_self fun m hm => (hms m hm).same_self)] at h
          cases h
          rfl
      | barred hms =>
          simp only [resolve] at h
          obtain ⟨found, mid, hfound, h⟩ := run_bind_eq_ok.mp h
          rw [hall hms hfound, if_pos (sameAll_self fun m hm => (hms m hm).same_self)] at h
          cases h
          rfl

/-- A type without texts and notes means itself, but null means its type. -/
theorem isString_of_run_typeMeaning {around : Surroundings} {a a' : Assigned} {m' : Meaning}
    (hm : m.IsWhole) (h : (typeMeaning around m).run a = .ok (m', a')) :
    m'.isString = m.isString := by
  unfold typeMeaning at h
  split at h
  · cases h
    rfl
  · rw [eq_of_run_resolve maxTexts [] hm h]

end Meaning

end PagedTables.TypeText
