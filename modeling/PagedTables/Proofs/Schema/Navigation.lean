import PagedTables.Proofs.Schema.Projections

/-!
# Columns of nested fields

A path of several names leads through nested objects. A query that selects it sends the names at the
service with slashes between them. Its column looks for a member of that whole name, and does not go
into objects.

So the value at the end of a path is not what the result has under the name of the column. Where no
member of an item has a slash in its name, the result has null for every path of several names.
-/
namespace PagedTables

/-- The names at the service of the parts of a path. -/
def Schema.wireNames? (s : Schema) (path : FieldPath) : Option (List String) :=
  match s.record with
  | none => some path.names
  | some t => (t.field? path.first.text).map fun f =>
      f.nameUnder s.naming :: path.rest.map fun name => s.naming.apply name.text

/-- The value that names lead to, one after the other, through nested objects. -/
def Json.follow? : Json → List String → Option Json
  | j, [] => some j
  | .object members, name :: rest => (Json.get? members name).bind fun inner => inner.follow? rest
  | _, _ :: _ => none

/-- No member has a slash in its name. -/
def Json.Undivided (item : JsonObject) : Prop :=
  ∀ member ∈ item, '/' ∉ member.1.toList

section Paths

variable {s : Schema} {path : FieldPath} {wires : List String}

theorem Schema.wirePath?_eq (s : Schema) (path : FieldPath) :
    s.wirePath? path = (s.wireNames? path).map ("/".intercalate ·) := by
  unfold wirePath? wireNames?
  cases s.record with
  | none => rfl
  | some t =>
      dsimp only
      cases t.field? path.first.text <;> rfl

theorem Schema.length_wireNames? (h : s.wireNames? path = some wires) :
    wires.length = path.rest.length + 1 := by
  unfold wireNames? at h
  cases hrecord : s.record with
  | none =>
      rw [hrecord] at h
      cases h
      simp [FieldPath.names]
  | some t =>
      rw [hrecord] at h
      obtain ⟨f, -, rfl⟩ := Option.map_eq_some_iff.mp h
      simp

theorem slash_mem_intercalate (h : 2 ≤ wires.length) : '/' ∈ ("/".intercalate wires).toList := by
  match wires, h with
  | first :: second :: rest, _ =>
      rw [String.toList_intercalate, List.map_cons, List.map_cons, List.intercalate_cons_cons]
      simp

theorem Json.Undivided.get?_eq_none {item : JsonObject} (hitem : Json.Undivided item)
    {name : String} (hname : '/' ∈ name.toList) : Json.get? item name = none := by
  apply Json.lookup_eq_none_iff_notMem.mpr
  intro hmem
  obtain ⟨member, hmember, rfl⟩ := List.mem_map.mp hmem
  exact hitem member hmember hname

theorem Json.Undivided.getD_joined {item : JsonObject} (hitem : Json.Undivided item)
    (h : 2 ≤ wires.length) : Json.getD item ("/".intercalate wires) = .null := by
  rw [Json.getD, ← Json.get?, hitem.get?_eq_none (slash_mem_intercalate h), Option.getD_none]

theorem Json.toValue_eq_null_iff {j : Json} : j.toValue = .null ↔ j = .null := by
  cases j <;> simp [Json.toValue]

end Paths

/-! ## Distinct names in the result -/

section Columns

variable {s : Schema} {selection : Selection} {columns : Columns}

theorem map_fst_of_resolves (h : List.Forall₂ s.Resolves selection columns) :
    columns.map Prod.fst = selection.map Prod.fst := by
  induction h with
  | nil => rfl
  | cons hcolumn _ ih => rw [List.map_cons, List.map_cons, ih, hcolumn.1]

/-- Where the names in the result are distinct, each column is the last one with its name. -/
theorem source?_of_mem (hdistinct : (columns.map Prod.fst).Nodup) {column : String × String}
    (hcolumn : column ∈ columns) : columns.source? column.1 = some column.2 := by
  rw [Columns.source?, Json.lookup_reverse hdistinct]
  exact (Json.lookup_eq_some_iff_mem hdistinct).mpr hcolumn

end Columns

namespace TableQuery

variable {q : TableQuery} {s : Schema} {selection : Selection} {columns : Columns}

/--
The result has under the name of a column what the item has under the joined names of the column's
path, or null. The value to which the path leads through nested objects is not looked for. The
result has it only by chance, and for paths of several names in an item whose own names have no
slashes only if it is null.
-/
theorem decoder_of_navigation
    (hschema : q.schema = .ok s) (hselection : q.spec.selection = some selection)
    (hresolves : List.Forall₂ s.Resolves selection columns)
    (hdistinct : (selection.map Prod.fst).Nodup) (hinto : q.into.target? = some none) :
    ∃ decode, q.decoder = .ok decode ∧
      ∀ out path wires, (out, Expr.field path) ∈ selection → s.wireNames? path = some wires →
        ∀ item, ∃ entries, decode item = .ok (.plain (.dict entries)) ∧
          (∀ v, (.text out, v) ∈ entries ↔
            v = (Json.getD item ("/".intercalate wires)).toValue) ∧
          (path.rest ≠ [] → Json.Undivided item →
            ∀ v, (Json.object item).follow? wires = some v →
              ((.text out, v.toValue) ∈ entries ↔ v = .null)) := by
  let p : Projection := ⟨columns, none⟩
  have hreader : q.reader = .ok (.columns p) := by
    rw [reader_eq hschema hselection hresolves, hinto]
  have houts : (columns.map Prod.fst).Nodup := by
    rw [map_fst_of_resolves hresolves]
    exact hdistinct
  refine ⟨p.decoder, by rw [decoder, hreader]; rfl, ?_⟩
  intro out path wires hmem hwires item
  obtain ⟨⟨name, wire⟩, hcolumn, hname, path', hfield, hwire⟩ :=
    exists_of_mem_of_forall₂ hresolves hmem
  cases hname
  cases hfield
  have hjoined : wire = "/".intercalate wires := by
    rw [Schema.wirePath?_eq, hwires, Option.map_some] at hwire
    exact (Option.some.inj hwire).symm
  have hshown : p.shown? item out = some (Json.getD item ("/".intercalate wires)).toValue := by
    rw [Projection.shown?, source?_of_mem houts hcolumn, Option.map_some, hjoined]
  obtain ⟨entries, hentries, hmem_entries⟩ := Projection.exists_entries (p := p) rfl item
  have hentry : ∀ v, (.text out, v) ∈ entries ↔
      v = (Json.getD item ("/".intercalate wires)).toValue := by
    intro v
    rw [hmem_entries, hshown, Option.some.injEq, eq_comm]
  refine ⟨entries, Decoder.ofPartial_eq_ok_iff.mpr hentries, hentry, ?_⟩
  intro hnested hitem v _
  -- The joined names have a slash between them, and no member of the item does.
  have hlength : 2 ≤ wires.length := by
    have hpositive := List.length_pos_of_ne_nil hnested
    rw [Schema.length_wireNames? hwires]
    omega
  rw [hentry, hitem.getD_joined hlength]
  exact Json.toValue_eq_null_iff

/-- A query for the name of the owner of each film, next to the film's own title. -/
def ownerQuery : TableQuery :=
  (all .untyped .camelCase (some "films")).chain
    [.select [.operand (.plain (.text "title")), .operand (.plain (.text "owner.name"))] []
      .untyped]

/-- A film with its owner, as a service answers such a query. -/
def ownedFilm : JsonObject :=
  [("title", .text "Alien"), ("owner", .object [("name", .text "Ada")])]

theorem decoder_of_navigation_ownedFilm :
    ownerQuery.schema = .ok (.untyped .camelCase) ∧
      (Json.object ownedFilm).follow? ["owner", "name"] = some (.text "Ada") ∧
      ∃ decode entries, ownerQuery.decoder = .ok decode ∧
        decode ownedFilm = .ok (.plain (.dict entries)) ∧ (.text "name", .null) ∈ entries ∧
        (.text "name", .text "Ada") ∉ entries := by
  have hselection : ownerQuery.spec.selection =
      some [("title", .field ⟨"title", []⟩), ("name", .field ⟨"owner", ["name"]⟩)] := rfl
  have hresolves : List.Forall₂ (Schema.untyped .camelCase).Resolves
      [("title", .field ⟨"title", []⟩), ("name", .field ⟨"owner", ["name"]⟩)]
      [("title", "title"), ("name", "owner/name")] := selectionColumns_eq_ok_iff.mp rfl
  have hfollow : (Json.object ownedFilm).follow? ["owner", "name"] = some (.text "Ada") := rfl
  have hundivided : Json.Undivided ownedFilm := by
    simp only [Json.Undivided, ownedFilm, List.forall_mem_cons]
    decide
  obtain ⟨decode, hdecode, hcolumn⟩ := decoder_of_navigation (q := ownerQuery) rfl hselection
    hresolves (by decide) rfl
  obtain ⟨entries, hentries, hflat, hnested⟩ := hcolumn "name" ⟨"owner", ["name"]⟩
    ["owner", "name"] (.tail _ (.head _)) rfl ownedFilm
  refine ⟨rfl, hfollow, decode, entries, hdecode, hentries, (hflat .null).mpr rfl, ?_⟩
  intro hmem
  cases (hnested (List.cons_ne_nil _ _) hundivided (.text "Ada") hfollow).mp hmem

/-- The name of the owner is in the item, and null is in the result. -/
theorem decoder_ownerQuery :
    ownerQuery.spec.selection =
        some [("title", .field ⟨"title", []⟩), ("name", .field ⟨"owner", ["name"]⟩)] ∧
      (Schema.untyped .camelCase).wireNames? ⟨"owner", ["name"]⟩ = some ["owner", "name"] ∧
      (Json.object ownedFilm).follow? ["owner", "name"] = some (.text "Ada") ∧
      ∃ decode, ownerQuery.decoder = .ok decode ∧
        decode ownedFilm =
          .ok (.plain (.dict [(.text "title", .text "Alien"), (.text "name", .null)])) ∧
        decode ownedFilm ≠
          .ok (.plain (.dict [(.text "title", .text "Alien"), (.text "name", .text "Ada")])) := by
  let p : Projection := ⟨[("title", "title"), ("name", "owner/name")], none⟩
  have hdecode : p.decoder ownedFilm =
      .ok (.plain (.dict [(.text "title", .text "Alien"), (.text "name", .null)])) := rfl
  refine ⟨rfl, rfl, rfl, p.decoder, rfl, hdecode, ?_⟩
  intro h
  rw [hdecode] at h
  cases h

end TableQuery

end PagedTables
