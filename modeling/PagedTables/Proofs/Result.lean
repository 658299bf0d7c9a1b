import Mathlib.Data.List.Forall2

/-!
# Results of steps that may fail

What it means for steps and for sequences of them to succeed, for every kind of failure.
-/
namespace PagedTables

variable {ε α β : Type}

theorem bind_eq_ok {x : Except ε α} {f : α → Except ε β} {b : β} :
    x >>= f = .ok b ↔ ∃ a, x = .ok a ∧ f a = .ok b := by
  cases x with
  | ok a =>
      constructor
      · exact fun h => ⟨a, rfl, h⟩
      · rintro ⟨_, ha, h⟩
        cases ha
        exact h
  | error e =>
      constructor
      · intro h
        cases h
      · rintro ⟨_, ha, _⟩
        cases ha

/-- Two steps on a state succeed if the second one does where the first one ends. -/
theorem run_bind_eq_ok {σ : Type} {x : StateT σ (Except ε) α} {next : α → StateT σ (Except ε) β}
    {s : σ} {result : β × σ} :
    (x >>= next).run s = .ok result ↔
      ∃ y s', x.run s = .ok (y, s') ∧ (next y).run s' = .ok result := by
  rw [StateT.run_bind, bind_eq_ok, Prod.exists]

theorem map_eq_ok {x : Except ε α} {f : α → β} {b : β} :
    x.map f = .ok b ↔ ∃ a, x = .ok a ∧ f a = b := by
  cases x with
  | ok a => simp [Except.map]
  | error e => simp [Except.map]

theorem exists_eq_error {x : Except ε α} (h : ∀ a, x ≠ .ok a) : ∃ e, x = .error e := by
  cases x with
  | ok a => exact absurd rfl (h a)
  | error e => exact ⟨e, rfl⟩

/-! ## Sequences of steps -/

/-- A sequence of steps succeeds if each of them does. -/
theorem mapM_eq_ok_iff {f : α → Except ε β} {as : List α} {bs : List β} :
    as.mapM f = .ok bs ↔ List.Forall₂ (fun a b => f a = .ok b) as bs := by
  induction as generalizing bs with
  | nil =>
      rw [List.forall₂_nil_left_iff]
      exact ⟨fun h => (Except.ok.inj h).symm, fun h => h ▸ rfl⟩
  | cons a as ih =>
      rw [List.mapM_cons, List.forall₂_cons_left_iff, bind_eq_ok]
      constructor
      · rintro ⟨b, hb, h⟩
        obtain ⟨rest, hrest, h⟩ := bind_eq_ok.mp h
        exact ⟨b, rest, hb, ih.mp hrest, (Except.ok.inj h).symm⟩
      · rintro ⟨b, rest, hb, hrest, rfl⟩
        exact ⟨b, hb, bind_eq_ok.mpr ⟨rest, ih.mpr hrest, rfl⟩⟩

theorem exists_of_mem_of_forall₂ {R : α → β → Prop} {as : List α} {bs : List β}
    (h : List.Forall₂ R as bs) {a : α} (ha : a ∈ as) : ∃ b ∈ bs, R a b := by
  induction h with
  | nil => cases ha
  | cons hfirst _ ih =>
      rcases List.mem_cons.mp ha with rfl | ha
      · exact ⟨_, List.mem_cons_self, hfirst⟩
      · obtain ⟨b, hb, hab⟩ := ih ha
        exact ⟨b, List.mem_cons_of_mem _ hb, hab⟩

/-- Steps that succeed with what another function gives come to what it gives. -/
theorem filterMap_of_mapM_ok
    {f : α → Except ε β} {g : α → Option β} (hfg : ∀ a b, f a = .ok b → g a = some b)
    {as : List α} {bs : List β} (h : as.mapM f = .ok bs) : as.filterMap g = bs := by
  induction mapM_eq_ok_iff.mp h with
  | nil => rfl
  | cons hfirst hrest ih =>
      rw [List.filterMap_cons, hfg _ _ hfirst, ih (mapM_eq_ok_iff.mpr hrest)]

theorem length_of_mapM_ok
    {f : α → Except ε β} {as : List α} {bs : List β} (h : as.mapM f = .ok bs) :
    bs.length = as.length :=
  (mapM_eq_ok_iff.mp h).length_eq.symm

theorem exists_of_mem_mapM_ok
    {f : α → Except ε β} {as : List α} {bs : List β} (h : as.mapM f = .ok bs)
    {b : β} (hb : b ∈ bs) : ∃ a ∈ as, f a = .ok b :=
  exists_of_mem_of_forall₂ (mapM_eq_ok_iff.mp h).flip hb

end PagedTables
