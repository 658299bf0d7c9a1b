import PagedTables.Proofs.Schema.Projections
import PagedTables.Text.Identifier

/-!
# Selections of all fields

A query can select all fields of its record type into that same type. Its results are records of the
same form as those of the query without a selection, and both hold what an item has for a field.
Where the item has nothing, the record of a selection holds null, and the plain one the default of
the field. So the two agree on an item exactly if it has all the fields with a default other than
null.
-/
namespace PagedTables

/-! ## Identifiers as references -/

namespace Text

/-- The code points of the blank characters. -/
def blankPoints : List Nat :=
  List.range' 9 5 ++ List.range' 0x1C 5 ++ List.range' 0x2000 11 ++
    [0x85, 0xA0, 0x1680, 0x2028, 0x2029, 0x202F, 0x205F, 0x3000]

/-- What holds of the blank characters, checked one after the other. -/
theorem forall_of_isBlank {P : Char → Prop} (h : ∀ n ∈ blankPoints, P (Char.ofNat n)) {c : Char}
    (hc : isBlank c = true) : P c := by
  have hpoint : c.toNat ∈ blankPoints := by
    simp only [isBlank, isWhite, Bool.or_eq_true, Bool.and_eq_true, decide_eq_true_eq,
      beq_iff_eq] at hc
    simp only [blankPoints, List.mem_append, List.mem_range'_1, List.mem_cons, List.not_mem_nil,
      or_false]
    omega
  have hp := h c.toNat hpoint
  rwa [Char.ofNat_toNat] at hp

theorem isIdentifierStart_eq_false_of_isBlank {c : Char} (hc : isBlank c = true) :
    isIdentifierStart c = false := by
  have hpoints : ∀ n ∈ blankPoints, isIdentifierStart (Char.ofNat n) = false := by decide +kernel
  exact forall_of_isBlank (P := fun c => isIdentifierStart c = false) hpoints hc

theorem notMem_of_isIdentifier {cs : List Char} (h : isIdentifier cs = true) {c : Char}
    (hc : isIdentifierPart c = false) : c ∉ cs := by
  intro hmem
  rw [isIdentifierPart_of_mem h hmem] at hc
  cases hc

theorem allBlank_of_isIdentifier {name : String} (h : isIdentifier name.toList = true) :
    allBlank name = false := by
  rw [allBlank]
  cases hname : name.toList with
  | nil => rw [hname] at h; cases h
  | cons first rest =>
      rw [hname] at h
      have hstart := (Bool.and_eq_true_iff.mp h).1
      cases hblank : isBlank first with
      | false => rw [List.all_cons, hblank, Bool.false_and]
      | true =>
          rw [isIdentifierStart_eq_false_of_isBlank hblank] at hstart
          cases hstart

end Text

theorem Expr.ofReference_of_isIdentifier {name : String}
    (h : Text.isIdentifier name.toList = true) :
    Expr.ofReference (.text name) = .ok (.field ⟨name, []⟩) := by
  have hslash : '/' ∉ name.toList := Text.notMem_of_isIdentifier h (by decide +kernel)
  have hpoint : '.' ∉ name.toList := Text.notMem_of_isIdentifier h (by decide +kernel)
  have hpoints : (name.toList.map fun c => if c = '/' then '.' else c) = name.toList := by
    calc
      name.toList.map (fun c => if c = '/' then '.' else c) = name.toList.map id :=
        List.map_congr_left fun c hc => if_neg (ne_of_mem_of_not_mem hc hslash)
      _ = name.toList := List.map_id _
  have hne : name.isEmpty = false := by
    apply Bool.eq_false_iff.mpr
    intro hempty
    rw [String.isEmpty_iff.mp hempty] at h
    cases h
  rw [Expr.ofReference]
  simp only [Value.asText?, Text.allBlank_of_isIdentifier h, hpoints,
    Text.splitAt_of_notMem hpoint]
  simp [Expr.ofNames, hne]

/-! ## Selections of names -/

/-- Fields that are selected under their own names. -/
def ownSelection (names : List String) : Selection :=
  names.map fun name => (name, .field ⟨name, []⟩)

theorem selectColumns_name {name : String} (h : Text.isIdentifier name.toList = true) :
    selectColumns (.operand (.plain (.text name))) = .ok [(name, .field ⟨name, []⟩)] := by
  have hfield : (Argument.operand (.plain (.text name))).toField "selection" =
      .ok (.field ⟨name, []⟩) := by
    simp [Argument.toField, Value.asText?, Expr.ofReference_of_isIdentifier h]
  calc
    selectColumns (.operand (.plain (.text name))) =
        (((Argument.operand (.plain (.text name))).toField "selection").bind fun e =>
          e.outputName.map (·, e)).map ([·]) := rfl
    _ = .ok [(name, .field ⟨name, []⟩)] := by rw [hfield]; rfl

theorem checkSelection_names {names : List String} (hne : names ≠ [])
    (h : ∀ name ∈ names, Text.isIdentifier name.toList = true) :
    TableQuery.checkSelection (names.map fun name => .operand (.plain (.text name))) [] =
      .ok (ownSelection names) := by
  have hown : (names.map fun name => Argument.operand (.plain (.text name))).mapM selectColumns =
      .ok (names.map fun name => [(name, .field ⟨name, []⟩)]) := by
    rw [mapM_eq_ok_iff, List.forall₂_map_left_iff, List.forall₂_map_right_iff, List.forall₂_same]
    exact fun name hname => selectColumns_name (h name hname)
  have hflat : (names.map fun name : String => [(name, Expr.field ⟨name, []⟩)]).flatten =
      ownSelection names := List.map_eq_flatMap.symm
  have hnonempty : (ownSelection names).isEmpty = false := by
    simpa [ownSelection] using hne
  rw [TableQuery.checkSelection]
  simp only [List.any_nil, hown]
  simp [bind, Except.bind, hflat, hnonempty, pure, Except.pure]

/-! ## Records -/

namespace RecordType

variable {t : RecordType}

theorem holding_eq_iff {given given' : Field → Option Value} :
    t.holding given = t.holding given' ↔
      ∀ f ∈ t.fields, f.held (given f) = f.held (given' f) := by
  simp [holding]

end RecordType

theorem Value.equal_null {v : Value} (h : v ≠ .null) : Value.equal .null v = .ok false := by
  have hatom : sameAtom .null v = false := by
    cases v with
    | null => exact absurd rfl h
    | member m =>
        obtain ⟨typeName, names, content, style, hnamed⟩ := m
        cases content <;> rfl
    | _ => rfl
  have hnan : isSameNaN .null v = false := by cases v <;> rfl
  have hequal : equal .null v = equalAtoms .null v := by simp [equal]
  rw [hequal, equalAtoms, hnan]
  cases v.numberKey? with
  | some key => rfl
  | none => exact congrArg Except.ok hatom

/-! ## Columns of names -/

section Columns

variable {s : Schema} {t : RecordType} {f : Field} {names : List String}

/-- The columns of fields that are selected under their own names. -/
def Schema.ownColumns (s : Schema) (names : List String) : Columns :=
  names.map fun name => (name, (s.wirePath? ⟨name, []⟩).getD "")

variable (hrecord : s.record = some t) (hnames : (t.fields.map Field.name).Nodup)

include hrecord hnames

theorem resolves_ownSelection (hfields : ∀ name ∈ names, name ∈ t.fields.map Field.name) :
    List.Forall₂ s.Resolves (ownSelection names) (s.ownColumns names) := by
  rw [ownSelection, Schema.ownColumns, List.forall₂_map_left_iff, List.forall₂_map_right_iff,
    List.forall₂_same]
  intro name hname
  obtain ⟨f, hf, rfl⟩ := List.mem_map.mp (hfields name hname)
  refine ⟨rfl, ⟨f.name, []⟩, rfl, ?_⟩
  simp [Schema.wirePath?_name hrecord hnames hf]

theorem source?_ownColumns (hf : f ∈ t.fields) (hname : f.name ∈ names) :
    (s.ownColumns names).source? f.name = some (f.nameUnder s.naming) := by
  rw [Columns.source?, Schema.ownColumns, ← List.map_reverse,
    List.lookup_graph (fun name : String => (s.wirePath? ⟨name, []⟩).getD "")
      (List.mem_reverse.mpr hname),
    Schema.wirePath?_name hrecord hnames hf, Option.getD_some]

end Columns

/-! ## Queries -/

namespace TableQuery

variable {q : TableQuery} {s : Schema} {t : RecordType} {names : List String}

theorem record_of_schema (hrow : q.row = .record t) (hschema : q.schema = .ok s) :
    s.record = some t := by
  rw [schema, hrow, RowType.schema, Schema.ofRow] at hschema
  cases hstrings : t.stringNames with
  | error flaw =>
      rw [hstrings] at hschema
      cases hschema
  | ok strings =>
      rw [hstrings] at hschema
      cases hschema
      rfl

theorem select_names (q : TableQuery) (into : RowType) (hne : names ≠ [])
    (h : ∀ name ∈ names, Text.isIdentifier name.toList = true) :
    q.select (names.map fun name => .operand (.plain (.text name))) [] into =
      .ok { q with
        spec := { q.spec with selection := some (ownSelection names) }
        into := into } := by
  rw [select, checkSelection_names hne h]
  rfl

theorem decoder_of_plain (hschema : q.schema = .ok s) (hselection : q.spec.selection = none) :
    q.decoder = .ok s.decoder := by
  rw [decoder, reader, hschema, hselection]
  rfl

/-- A record of all fields holds what an item has for them, and null for the others. -/
theorem decoder_of_ownSelection
    (hschema : q.schema = .ok s) (hrecord : s.record = some t)
    (hselection : q.spec.selection = some (ownSelection names)) (hinto : q.into = .record t)
    (hordinary : t.isOrdinary = true) (hnames : (t.fields.map Field.name).Nodup)
    (hall : ∀ name, name ∈ names ↔ name ∈ t.fields.map Field.name) :
    ∃ decode, q.decoder = .ok decode ∧ ∀ item, decode item =
      .ok (.record (t.holding fun f => some ((s.valueOf? item f).getD .null))) := by
  let p : Projection := ⟨s.ownColumns names, some t⟩
  have hresolves := resolves_ownSelection hrecord hnames fun name => (hall name).mp
  refine ⟨p.decoder, ?_, ?_⟩
  · rw [decoder, reader_eq hschema hselection hresolves, hinto]
    rfl
  · intro item
    refine Decoder.ofPartial_eq_ok_iff.mpr
      ((p.reads.record t rfl hordinary hnames item).trans ?_)
    refine congrArg (some ∘ Item.record) (RecordType.holding_congr fun f hf _ => ?_)
    have hname : f.name ∈ names := (hall f.name).mpr (List.mem_map_of_mem hf)
    rw [Projection.shown?, source?_ownColumns hrecord hnames hf hname, Option.map_some,
      Schema.valueOf?, Json.getD, ← Json.get?]
    cases Json.get? item (f.nameUnder s.naming) <;> rfl

/--
A query that selects all fields into their own type, an ordinary one, decodes every item, and so
does the query without the selection. Their records are the same exactly if the item has every field
whose default is not null. Otherwise they differ in one of the fields that it lacks, where the one
holds null and the other a default that is not equal to it.
-/
theorem decoder_of_full_selection
    (hrow : q.row = .record t) (hschema : q.schema = .ok s) (hplain : q.spec.selection = none)
    (hordinary : t.isOrdinary = true) (hgiven : ∀ f ∈ t.fields, f.isGiven = true)
    (hnames : (t.fields.map Field.name).Nodup)
    (hidentifiers : ∀ f ∈ t.fields, Text.isIdentifier f.name.toList = true)
    (hwires : (t.fields.map fun f => f.nameUnder s.naming).Nodup) (hne : names ≠ [])
    (hall : ∀ name, name ∈ names ↔ name ∈ t.fields.map Field.name) :
    ∃ full plain whole,
      q.select (names.map fun name => .operand (.plain (.text name))) [] (.record t) = .ok full ∧
      q.decoder = .ok plain ∧ full.decoder = .ok whole ∧
      ∀ item, plain item = .ok (.record (t.holding (s.valueOf? item))) ∧
        whole item = .ok (.record (t.holding fun f => some ((s.valueOf? item f).getD .null))) ∧
        (whole item = plain item ↔
          ∀ f ∈ t.fields, s.valueOf? item f = none → f.fallback = .null) ∧
        (whole item ≠ plain item → ∃ f ∈ t.fields, s.valueOf? item f = none ∧
          Value.equal .null f.fallback = .ok false) := by
  have hrecord := record_of_schema hrow hschema
  let full : TableQuery :=
    { q with
      spec := { q.spec with selection := some (ownSelection names) }
      into := .record t }
  have hselect : q.select (names.map fun name => .operand (.plain (.text name))) [] (.record t) =
      .ok full := by
    apply select_names q (.record t) hne
    intro name hname
    obtain ⟨f, hf, rfl⟩ := List.mem_map.mp ((hall name).mp hname)
    exact hidentifiers f hf
  obtain ⟨whole, hwhole, hvalues⟩ :=
    decoder_of_ownSelection (q := full) hschema hrecord rfl rfl hordinary hnames hall
  refine ⟨full, s.decoder, whole, hselect, decoder_of_plain hschema hplain, hwhole, ?_⟩
  intro item
  have hdecode : s.decoder item = .ok (.record (t.holding (s.valueOf? item))) :=
    Decoder.ofPartial_eq_ok_iff.mpr
      (Schema.decode?_eq_holding hrecord hnames hwires hordinary item)
  -- Where the item has a value, both records hold it, so only missing fields can differ.
  have hfield : ∀ f ∈ t.fields, (f.held (some ((s.valueOf? item f).getD .null)) =
      f.held (s.valueOf? item f) ↔ (s.valueOf? item f = none → f.fallback = .null)) := by
    intro f hf
    rw [Field.held, Field.held, if_pos (hgiven f hf), if_pos (hgiven f hf), Option.some.injEq]
    cases s.valueOf? item f with
    | none => simp [eq_comm]
    | some v => simp
  have hagree : whole item = s.decoder item ↔
      ∀ f ∈ t.fields, s.valueOf? item f = none → f.fallback = .null := by
    rw [hvalues, hdecode, Except.ok.injEq, Item.record.injEq, RecordType.holding_eq_iff]
    exact forall₂_congr hfield
  refine ⟨hdecode, hvalues item, hagree, ?_⟩
  intro hdiffer
  by_contra hnone
  refine hdiffer (hagree.mpr fun f hf hmissing => ?_)
  by_contra hfallback
  exact hnone ⟨f, hf, hmissing, Value.equal_null hfallback⟩

/-- A query for all films. -/
def filmsQuery : TableQuery :=
  all (.record films) .camelCase (some "films")

/-- The names of the fields of films. -/
def filmNames : List String :=
  ["id", "title", "release_date", "mpaa_rating"]

/-- A film without a date, which is null by default. -/
def undatedFilm : JsonObject :=
  [("id", .text "1"), ("title", .text "Alien"), ("rating", .text "R")]

/-- A film without a rating, which is empty by default. -/
def unratedFilm : JsonObject :=
  [("id", .text "1"), ("title", .text "Alien")]

theorem decoder_of_full_selection_films :
    ∃ full plain whole,
      filmsQuery.select (filmNames.map fun name => .operand (.plain (.text name))) []
        (.record films) = .ok full ∧
      filmsQuery.decoder = .ok plain ∧ full.decoder = .ok whole ∧
      whole undatedFilm = plain undatedFilm ∧ whole unratedFilm ≠ plain unratedFilm := by
  have hschema : filmsQuery.schema = .ok ⟨some films, .camelCase, ["id", "title", "mpaa_rating"]⟩ :=
    rfl
  have hgiven : ∀ f ∈ films.fields, f.isGiven = true := by decide +kernel
  have hidentifiers : ∀ f ∈ films.fields, Text.isIdentifier f.name.toList = true := by
    decide +kernel
  have hne : filmNames ≠ [] := List.cons_ne_nil _ _
  obtain ⟨full, plain, whole, hfull, hplain, hwhole, hvalues⟩ :=
    decoder_of_full_selection (q := filmsQuery) rfl hschema rfl (by decide +kernel) hgiven
      (by decide) hidentifiers (by decide +kernel) hne (fun _ => Iff.rfl)
  refine ⟨full, plain, whole, hfull, hplain, hwhole, ?_, ?_⟩
  · apply (hvalues undatedFilm).2.2.1.mpr
    simp only [films, List.forall_mem_cons]
    exact ⟨nofun, nofun, fun _ => rfl, nofun, nofun⟩
  · intro heq
    cases (hvalues unratedFilm).2.2.1.mp heq _ (.tail _ (.tail _ (.tail _ (.head _)))) rfl

/-- The film without a rating has the default of ratings in the one record and null in the other. -/
theorem decoder_unratedFilm :
    ∃ full plain whole,
      filmsQuery.select (filmNames.map fun name => .operand (.plain (.text name))) []
        (.record films) = .ok full ∧
      filmsQuery.decoder = .ok plain ∧ full.decoder = .ok whole ∧
      plain unratedFilm = .ok (.record ⟨"Film", [("id", some (.text "1")),
        ("title", some (.text "Alien")), ("release_date", some .null),
        ("mpaa_rating", some (.text ""))]⟩) ∧
      whole unratedFilm = .ok (.record ⟨"Film", [("id", some (.text "1")),
        ("title", some (.text "Alien")), ("release_date", some .null),
        ("mpaa_rating", some .null)]⟩) ∧
      whole unratedFilm ≠ plain unratedFilm ∧ Value.equal .null (.text "") = .ok false := by
  have hidentifiers : ∀ name ∈ filmNames, Text.isIdentifier name.toList = true := by
    decide +kernel
  have hselect := select_names filmsQuery (.record films) (List.cons_ne_nil _ _) hidentifiers
  refine ⟨_, _, _, hselect, rfl, rfl, rfl, rfl, ?_, rfl⟩
  intro heq
  cases heq

end TableQuery

end PagedTables
