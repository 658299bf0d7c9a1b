import Mathlib.Data.List.Induction
import Mathlib.Data.List.Nodup
import PagedTables.Json.Basic
import PagedTables.Query.Clauses

/-!
# Named values

Lists of values with names, like the members of an object or the columns of a result. Where no name
occurs twice, a name has the value of its one member, in whatever order the members stand.

Members with names that may occur again are made into an object by setting one after the other. Then
each name stands where it occurs first, and has the value with which it occurs last.
-/
namespace PagedTables

namespace Json

variable {α β : Type} {members others : List (String × α)} {names : List String}

/-! ## Values by name -/

theorem lookup_eq_some_iff_mem
    (h : (members.map Prod.fst).Nodup) {name : String} {value : α} :
    members.lookup name = some value ↔ (name, value) ∈ members := by
  constructor
  · intro hlookup
    obtain ⟨before, after, rfl, -⟩ := List.lookup_eq_some_iff.mp hlookup
    exact List.mem_append_right before List.mem_cons_self
  · intro hmem
    obtain ⟨before, after, rfl⟩ := List.append_of_mem hmem
    refine List.lookup_eq_some_iff.mpr ⟨before, after, rfl, fun member hmember => ?_⟩
    rw [List.map_append, List.nodup_append] at h
    have hne : member.1 ≠ name :=
      h.2.2 member.1 (List.mem_map_of_mem hmember) name List.mem_cons_self
    exact bne_iff_ne.mpr hne.symm

theorem lookup_eq_none_iff_notMem {name : String} :
    members.lookup name = none ↔ name ∉ members.map Prod.fst := by
  rw [List.lookup_eq_none_iff, List.mem_map]
  constructor
  · rintro h ⟨member, hmember, rfl⟩
    exact bne_iff_ne.mp (h member hmember) rfl
  · intro h member hmember
    exact bne_iff_ne.mpr fun heq => h ⟨member, hmember, heq.symm⟩

/-- The order of members does not matter to what a name has. -/
theorem lookup_perm (hperm : members.Perm others) (h : (members.map Prod.fst).Nodup)
    (name : String) : members.lookup name = others.lookup name := by
  have hothers : (others.map Prod.fst).Nodup := (hperm.map Prod.fst).nodup_iff.mp h
  ext value
  rw [lookup_eq_some_iff_mem h, lookup_eq_some_iff_mem hothers, hperm.mem_iff]

theorem lookup_reverse (h : (members.map Prod.fst).Nodup) (name : String) :
    members.reverse.lookup name = members.lookup name :=
  (lookup_perm members.reverse_perm.symm h name).symm

theorem lookup_filter_name (p : String → Bool) (name : String) :
    (members.filter fun member => p member.1).lookup name =
      if p name then members.lookup name else none := by
  induction members with
  | nil => simp
  | cons member rest ih =>
      obtain ⟨first, value⟩ := member
      by_cases hname : name = first
      · subst hname
        cases hp : p name with
        | true => simp [hp]
        | false => simpa [hp] using ih
      · have hne : (name == first) = false := beq_false_of_ne hname
        cases hp : p first <;> simp [hp, hne, List.lookup_cons, ih]

theorem lookup_map_value (f : α → β) (name : String) :
    (members.map fun member => (member.1, f member.2)).lookup name =
      (members.lookup name).map f := by
  induction members with
  | nil => rfl
  | cons member rest ih =>
      rw [List.map_cons, List.lookup_cons, List.lookup_cons]
      cases name == member.1 with
      | true => rfl
      | false => exact ih

theorem lookup_map_same (value : α) (name : String) :
    (names.map (·, value)).lookup name = if name ∈ names then some value else none := by
  by_cases hname : name ∈ names
  · rw [if_pos hname, List.lookup_graph (fun _ => value) hname]
  · rw [if_neg hname, lookup_eq_none_iff_notMem]
    simpa using hname

/-- What is listed by a key that tells its elements apart is found by the key. -/
theorem lookup_map_of_nodup {key : β → String} {bs : List β} (h : (bs.map key).Nodup)
    (value : β → α) {b : β} (hb : b ∈ bs) :
    (bs.map fun b => (key b, value b)).lookup (key b) = some (value b) := by
  have hnames : ((bs.map fun b => (key b, value b)).map Prod.fst).Nodup := by
    simpa [List.map_map, Function.comp_def] using h
  exact (lookup_eq_some_iff_mem hnames).mpr (List.mem_map.mpr ⟨b, hb, rfl⟩)

/-- A list without a name that occurs twice is known by its names and what they have. -/
theorem eq_map_lookup (h : (members.map Prod.fst).Nodup) (d : α) :
    members = (members.map Prod.fst).map fun name => (name, (members.lookup name).getD d) := by
  rw [List.map_map]
  refine (List.map_id members).symm.trans (List.map_congr_left fun member hmember => ?_)
  have hvalue : members.lookup member.1 = some member.2 :=
    (lookup_eq_some_iff_mem h).mpr hmember
  rw [Function.comp_apply, hvalue]
  rfl

end Json

/-! ## First occurrences -/

section FirstOccurrences

variable {names : List String} {name : String}

theorem mem_firstOccurrences : name ∈ firstOccurrences names ↔ name ∈ names := by
  induction names with
  | nil => rfl
  | cons first rest ih =>
      rw [firstOccurrences, List.mem_cons, List.mem_cons, List.mem_filter, ih]
      by_cases hname : name = first
      · simp [hname]
      · simp [hname]

theorem nodup_firstOccurrences (names : List String) : (firstOccurrences names).Nodup := by
  induction names with
  | nil => exact .nil
  | cons first rest ih =>
      refine List.nodup_cons.mpr ⟨?_, ih.filter _⟩
      intro hmem
      simpa using (List.mem_filter.mp hmem).2

/-- The names that are left stand in the order of their first places. -/
theorem pairwise_idxOf_firstOccurrences (names : List String) :
    (firstOccurrences names).Pairwise fun m n => names.idxOf m < names.idxOf n := by
  induction names with
  | nil => exact .nil
  | cons first rest ih =>
      have hlater : ∀ name ∈ (firstOccurrences rest).filter (· ≠ first),
          (first :: rest).idxOf name = rest.idxOf name + 1 := by
        intro name hname
        have hne : name ≠ first := by simpa using (List.mem_filter.mp hname).2
        exact List.idxOf_cons_ne rest hne.symm
      refine List.pairwise_cons.mpr ⟨fun name hname => ?_, ?_⟩
      · rw [hlater name hname, List.idxOf_cons_self]
        exact Nat.succ_pos _
      · refine (ih.filter _).imp_of_mem fun {m n} hm hn hlt => ?_
        rw [hlater m hm, hlater n hn]
        exact Nat.succ_lt_succ hlt

theorem firstOccurrences_concat (names : List String) (name : String) :
    firstOccurrences (names ++ [name]) =
      firstOccurrences names ++ if name ∈ names then [] else [name] := by
  induction names with
  | nil => rfl
  | cons first rest ih =>
      rw [List.cons_append, firstOccurrences, firstOccurrences, ih, List.filter_append,
        List.cons_append]
      by_cases hrest : name ∈ rest
      · simp [hrest]
      · by_cases hfirst : name = first
        · simp [hfirst]
        · simp [hrest, hfirst]

end FirstOccurrences

/-! ## Objects -/

namespace Json

variable {α : Type} {members : List (String × α)}

theorem map_fst_setMember (name : String) (value : α) (members : List (String × α)) :
    (setMember name value members).map Prod.fst =
      members.map Prod.fst ++ if name ∈ members.map Prod.fst then [] else [name] := by
  induction members with
  | nil => rfl
  | cons member rest ih =>
      rw [setMember]
      by_cases hname : member.1 = name
      · simp [hname]
      · have hmem : name ∈ (member :: rest).map Prod.fst ↔ name ∈ rest.map Prod.fst := by
          rw [List.map_cons, List.mem_cons, or_iff_right (Ne.symm hname)]
        rw [if_neg hname, List.map_cons, ih, if_congr hmem rfl rfl, List.map_cons,
          List.cons_append]

theorem lookup_setMember (name : String) (value : α) (members : List (String × α))
    (other : String) :
    (setMember name value members).lookup other =
      if other = name then some value else members.lookup other := by
  induction members with
  | nil =>
      rw [setMember, List.lookup_cons]
      by_cases hother : other = name
      · simp [hother]
      · simp [hother, beq_false_of_ne hother]
  | cons member rest ih =>
      obtain ⟨first, v⟩ := member
      rw [setMember]
      by_cases hfirst : first = name
      · subst hfirst
        by_cases hother : other = first
        · simp [hother]
        · have hne : (other == first) = false := beq_false_of_ne hother
          simp [List.lookup_cons, hother, hne]
      · rw [if_neg hfirst, List.lookup_cons, List.lookup_cons, ih]
        by_cases hother : other = name
        · subst hother
          have hne : (other == first) = false := beq_false_of_ne (Ne.symm hfirst)
          simp [hne]
        · simp [hother]

/-- Each name stands where it occurs first. -/
theorem map_fst_ofMembers (members : List (String × α)) :
    (ofMembers members).map Prod.fst = firstOccurrences (members.map Prod.fst) := by
  -- The induction is at the end of the list, where the member stands that is set last.
  induction members using List.reverseRecOn with
  | nil => rfl
  | append_singleton members member ih =>
      rw [ofMembers, List.foldl_append, List.foldl_cons, List.foldl_nil, map_fst_setMember,
        List.map_append, List.map_singleton, firstOccurrences_concat, ← ih]
      have hmem : member.1 ∈ (ofMembers members).map Prod.fst ↔
          member.1 ∈ members.map Prod.fst := by
        rw [ih, mem_firstOccurrences]
      rw [← ofMembers, if_congr hmem rfl rfl]

/-- Each name has the value with which it occurs last. -/
theorem lookup_ofMembers (members : List (String × α)) (name : String) :
    (ofMembers members).lookup name = members.reverse.lookup name := by
  induction members using List.reverseRecOn with
  | nil => rfl
  | append_singleton members member ih =>
      obtain ⟨first, value⟩ := member
      rw [ofMembers, List.foldl_append, List.foldl_cons, List.foldl_nil, lookup_setMember,
        ← ofMembers, ih, List.reverse_append, List.reverse_singleton, List.singleton_append,
        List.lookup_cons]
      by_cases hname : name = first
      · simp [hname]
      · simp [hname, beq_false_of_ne hname]

theorem nodup_ofMembers (members : List (String × α)) :
    ((ofMembers members).map Prod.fst).Nodup := by
  rw [map_fst_ofMembers]
  exact nodup_firstOccurrences _

theorem ofMembers_eq (members : List (String × α)) (d : α) :
    ofMembers members = (firstOccurrences (members.map Prod.fst)).map fun name =>
      (name, (members.reverse.lookup name).getD d) := by
  have h := eq_map_lookup (nodup_ofMembers members) d
  rw [map_fst_ofMembers] at h
  simpa only [lookup_ofMembers] using h

end Json

end PagedTables
