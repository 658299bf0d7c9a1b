import PagedTables.Proofs.Query.QueryString
import PagedTables.Proofs.Schema.Records

/-!
# Selections and their results

A query that selects fields sends their names at the service, and it reads its items through
columns with the same names. Several columns may have one name at the service, which is sent once,
and several may have one name in the result, which is that of the last of them.

The main result says that nothing else in an item counts, and what the result is. Without a record
type it has an entry for each name of a column. A record has the values of the columns in the fields
of their names; its other fields hold what they do without a value, and other columns are dropped.
-/
namespace PagedTables

/-! ## Columns -/

/-- The column of a selected field has its name at the service. -/
def Schema.Resolves (s : Schema) (entry : String × Expr) (column : String × String) : Prop :=
  column.1 = entry.1 ∧ ∃ path, entry.2 = .field path ∧ s.wirePath? path = some column.2

/-- The name at the service of the last column with a name in the result. -/
def Columns.source? (columns : Columns) (out : String) : Option String :=
  columns.reverse.lookup out

section Columns

variable {s : Schema} {selection : Selection} {columns : Columns}

theorem fieldText_eq_ok_iff {e : Expr} {clause : Clause} {name : String} :
    e.fieldText s clause = .ok name ↔ ∃ path, e = .field path ∧ s.wirePath? path = some name := by
  cases e with
  | field path =>
      rw [Expr.fieldText, Schema.resolve]
      cases hwire : s.wirePath? path <;> simp [hwire]
  | _ => simp [Expr.fieldText]

theorem selectionColumns_eq_ok_iff :
    selectionColumns s selection = .ok columns ↔ List.Forall₂ s.Resolves selection columns := by
  have hcolumn (entry : String × Expr) (column : String × String) :
      (entry.2.fieldText s Clause.select).map (entry.1, ·) = .ok column ↔
        s.Resolves entry column := by
    obtain ⟨out, wire⟩ := column
    rw [map_eq_ok, Schema.Resolves]
    simp only [fieldText_eq_ok_iff, Prod.mk.injEq]
    constructor
    · rintro ⟨name, hname, hout, rfl⟩
      exact ⟨hout.symm, hname⟩
    · rintro ⟨hout, hname⟩
      exact ⟨wire, hname, hout.symm, rfl⟩
  rw [selectionColumns, mapM_eq_ok_iff]
  simp only [hcolumn]

theorem exists_source? {out : String} (h : out ∈ columns.map Prod.fst) :
    ∃ wire, columns.source? out = some wire := by
  apply Option.isSome_iff_exists.mp
  obtain ⟨column, hcolumn, rfl⟩ := List.mem_map.mp h
  exact List.lookup_isSome_iff.mpr ⟨column, List.mem_reverse.mpr hcolumn, by simp⟩

end Columns

/-! ## Results -/

namespace Projection

variable {p : Projection} {names : List String}

/-- The names at the service that are looked up in an item, one for each column. -/
def lookups (p : Projection) : List String :=
  p.columns.map Prod.snd

/-- The result that is made of the answers to the look-ups. -/
def ofAnswers? (p : Projection) (answers : List Json) : Option Item :=
  let values := List.zipWith (fun column answer => (column.1, answer.toValue)) p.columns answers
  match p.into with
  | none => some (.ofEntries (Json.ofMembers values))
  | some t => (t.ofValues? (Json.ofMembers values)).map .record

/-- The value of an item that the result has under a name. -/
def shown? (p : Projection) (item : JsonObject) (out : String) : Option Value :=
  (p.columns.source? out).map fun wire => (Json.getD item wire).toValue

/-- The names are what a projection looks up, and what it makes of items. -/
structure Reads (p : Projection) (names : List String) : Prop where
  /-- The names stand in the order in which they are looked up first. -/
  ordered : names.Pairwise fun m n => p.lookups.idxOf m < p.lookups.idxOf n
  mem_iff : ∀ name, name ∈ names ↔ name ∈ p.lookups
  source : ∀ out ∈ p.columns.map Prod.fst, ∃ wire, p.columns.source? out = some wire
  /-- An item has no part in the result but by the answers to the look-ups. -/
  decode?_eq : ∀ item, p.decode? item = p.ofAnswers? (p.lookups.map (Json.getD item))
  agree : ∀ a b, (∀ name ∈ names, Json.get? a name = Json.get? b name) →
    p.decode? a = p.decode? b
  dictionary : p.into = none → ∀ item, p.decode? item = some (.plain (.dict
    ((firstOccurrences (p.columns.map Prod.fst)).map fun out =>
      (.text out, (p.shown? item out).getD .null))))
  /-- The constructor of an ordinary type accepts the values of the columns. -/
  record : ∀ t, p.into = some t → t.isOrdinary = true → (t.fields.map Field.name).Nodup →
    ∀ item, p.decode? item = some (.record (t.holding fun f => p.shown? item f.name))

theorem decode?_eq_ofAnswers? (p : Projection) (item : JsonObject) :
    p.decode? item = p.ofAnswers? (p.lookups.map (Json.getD item)) := by
  have hvalues : List.zipWith (fun column answer => (column.1, answer.toValue)) p.columns
      (p.lookups.map (Json.getD item)) = p.values item := by
    rw [lookups, List.map_map, List.zipWith_map_right, List.zipWith_self]
    rfl
  rw [ofAnswers?, hvalues]
  rfl

theorem lookup_values (p : Projection) (item : JsonObject) (out : String) :
    (p.values item).reverse.lookup out = p.shown? item out := by
  rw [values, ← List.map_reverse, shown?, Columns.source?, ← Json.lookup_map_value]

theorem lookup_entries (p : Projection) (item : JsonObject) (out : String) :
    (p.entries item).lookup out = p.shown? item out := by
  rw [entries, Json.lookup_ofMembers, lookup_values]

theorem map_fst_values (p : Projection) (item : JsonObject) :
    (p.values item).map Prod.fst = p.columns.map Prod.fst := by
  rw [values, List.map_map]
  rfl

/-- Every projection reads the names of its columns, each once. -/
theorem reads (p : Projection) : p.Reads (firstOccurrences p.lookups) where
  ordered := pairwise_idxOf_firstOccurrences p.lookups
  mem_iff _ := mem_firstOccurrences
  source _ := exists_source?
  decode?_eq := p.decode?_eq_ofAnswers?
  agree := by
    intro a b hagree
    have hanswers : p.lookups.map (Json.getD a) = p.lookups.map (Json.getD b) := by
      refine List.map_congr_left fun name hname => ?_
      exact congrArg (·.getD Json.null) (hagree name (mem_firstOccurrences.mpr hname))
    rw [decode?_eq_ofAnswers?, decode?_eq_ofAnswers?, hanswers]
  dictionary := by
    intro hinto item
    rw [decode?, hinto]
    dsimp only
    -- The result is the object that is made by setting the values of the columns in their order.
    rw [Item.ofEntries, entries, Json.ofMembers_eq _ .null, map_fst_values, List.map_map]
    simp only [lookup_values]
    rfl
  record := by
    intro t hinto hordinary hnames item
    rw [decode?, hinto]
    dsimp only
    rw [RecordType.ofValues?_eq hnames hordinary, Option.map_some]
    simp only [lookup_entries]

theorem mem_of_shown? {item : JsonObject} {out : String} {v : Value}
    (h : p.shown? item out = some v) : out ∈ p.columns.map Prod.fst := by
  obtain ⟨wire, hwire, -⟩ := Option.map_eq_some_iff.mp h
  by_contra hout
  rw [Columns.source?, Json.lookup_eq_none_iff_notMem.mpr] at hwire
  · cases hwire
  · simpa using hout

/-- Without a record type, the entries of the result are the values of the columns. -/
theorem exists_entries (hinto : p.into = none) (item : JsonObject) :
    ∃ entries, p.decode? item = some (.plain (.dict entries)) ∧
      ∀ out v, (.text out, v) ∈ entries ↔ p.shown? item out = some v := by
  refine ⟨_, p.reads.dictionary hinto item, ?_⟩
  intro out v
  rw [List.mem_map]
  constructor
  · rintro ⟨other, hother, heq⟩
    cases heq
    obtain ⟨wire, hwire⟩ := exists_source? (mem_firstOccurrences.mp hother)
    rw [shown?, hwire]
    rfl
  · intro h
    exact ⟨out, mem_firstOccurrences.mpr (mem_of_shown? h), by rw [h, Option.getD_some]⟩

end Projection

/-! ## The selected names in the query string -/

theorem filter_named (m n : String) (values : List String) :
    ((values.map (Name.plain m, ·) : List Component).filter fun c =>
        c.1 = Name.plain n) =
      if m = n then values.map (Name.plain m, ·) else [] := by
  have hname : Name.plain m = .plain n ↔ m = n := by simp [Name.plain]
  by_cases h : m = n
  · simp [h]
  · simp [h, hname]

/-- A specification sends its selection under a name of its own, once. -/
theorem QuerySpec.filter_select_ownComponents
    {spec : QuerySpec} {schema : Schema} {selection : Selection} {text : String}
    (hselection : spec.selection = some selection)
    (htext : selectionText schema selection = .ok text)
    {own : List Component} (hown : spec.ownComponents schema = .ok own) :
    (own.filter fun c => c.1 = .plain "$select") =
      if selection.isEmpty then [] else [(.plain "$select", text)] := by
  obtain ⟨filter, -, hown⟩ := bind_eq_ok.mp hown
  obtain ⟨ordering, -, hown⟩ := bind_eq_ok.mp hown
  obtain ⟨texts, htexts, hown⟩ := bind_eq_ok.mp hown
  obtain ⟨skip, -, hown⟩ := bind_eq_ok.mp hown
  obtain ⟨take, -, hown⟩ := bind_eq_ok.mp hown
  cases hown
  have hown : texts = if selection.isEmpty then [] else [text] := by
    rw [hselection, Option.toList_some] at htexts
    cases hempty : selection.isEmpty with
    | true =>
        rw [List.filter_cons_of_neg (by simp [hempty])] at htexts
        cases htexts
        rfl
    | false =>
        rw [List.filter_cons_of_pos (by simp [hempty]), List.filter_nil, List.mapM_cons, htext]
          at htexts
        cases htexts
        rfl
  simp only [List.filter_append, filter_named]
  rw [hown]
  cases selection.isEmpty <;> simp

theorem split_intercalate_comma {names : List String} (hne : names ≠ [])
    (h : ∀ name ∈ names, ',' ∉ name.toList) :
    Text.split ',' (",".intercalate names) = names := by
  have hpieces : ∀ piece ∈ names.map String.toList, ',' ∉ piece := by
    simpa only [List.forall_mem_map] using h
  rw [Text.split, String.toList_intercalate, show ",".toList = [','] from rfl,
    Text.splitAt_intercalate (by simpa using hne) hpieces]
  simp

/-! ## Queries -/

/--
What the results of a selection are put into: a record type or none. A type that declares no fields
is not possible.
-/
def RowType.target? : RowType → Option (Option RecordType)
  | untyped => some none
  | dictionary => some none
  | record t => some (some t)
  | other _ => none

namespace TableQuery

variable {q : TableQuery} {s : Schema} {selection : Selection} {columns : Columns}

theorem reader_eq (hschema : q.schema = .ok s) (hselection : q.spec.selection = some selection)
    (hresolves : List.Forall₂ s.Resolves selection columns) :
    q.reader = match q.into.target? with
      | some target => .ok (.columns ⟨columns, target⟩)
      | none => .error .projectionTarget := by
  rw [reader, hschema, hselection]
  simp only [bind, Except.bind, selectionColumns_eq_ok_iff.mpr hresolves]
  cases q.into <;> rfl

/--
The selected names at the service are the ones that the columns look up, each once and in the order
in which they are selected first. They are sent between commas, so that a service finds them again
unless one of them holds a comma. An item is decoded by these names alone, and every item is, unless
it has to become a record of a type that is not an ordinary one.
-/
theorem reader_of_selection
    (hschema : q.schema = .ok s) (hselection : q.spec.selection = some selection)
    (hresolves : List.Forall₂ s.Resolves selection columns) :
    ∃ names,
      (q.reader = match q.into.target? with
        | some target => .ok (.columns ⟨columns, target⟩)
        | none => .error .projectionTarget) ∧
      (∀ target, (Projection.mk columns target).Reads names) ∧
      ((∀ t, q.into = .record t → t.isOrdinary = true ∧ (t.fields.map Field.name).Nodup) →
        ∀ r, q.reader = .ok r → ∀ item, ∃ made, r.read (.object item) = .ok made) ∧
      selectionText s selection = .ok (",".intercalate names) ∧
      (∀ own, q.spec.ownComponents s = .ok own →
        (own.filter fun c => c.1 = .plain "$select") =
          if selection.isEmpty then [] else [(.plain "$select", ",".intercalate names)]) ∧
      (names ≠ [] → (∀ name ∈ names, ',' ∉ name.toList) →
        Text.split ',' (",".intercalate names) = names) := by
  have htext : selectionText s selection =
      .ok (",".intercalate (firstOccurrences (columns.map Prod.snd))) := by
    rw [selectionText, selectionColumns_eq_ok_iff.mpr hresolves]
    rfl
  refine ⟨firstOccurrences (columns.map Prod.snd), reader_eq hschema hselection hresolves,
    fun target => Projection.reads ⟨columns, target⟩, ?_, htext,
    fun own hown => QuerySpec.filter_select_ownComponents hselection htext hown,
    split_intercalate_comma⟩
  intro hordinary r hr item
  rw [reader_eq hschema hselection hresolves] at hr
  cases hinto : q.into with
  | other name =>
      rw [hinto] at hr
      cases hr
  | record t =>
      rw [hinto] at hr
      cases hr
      obtain ⟨hordinary, hnames⟩ := hordinary t hinto
      have hmade := (Projection.reads ⟨columns, some t⟩).record t rfl hordinary hnames item
      exact ⟨_, Decoder.ofPartial_eq_ok_iff.mpr hmade⟩
  | untyped | dictionary =>
      rw [hinto] at hr
      cases hr
      exact ⟨_, Decoder.ofPartial_eq_ok_iff.mpr
        ((Projection.reads ⟨columns, none⟩).dictionary rfl item)⟩

/-- Films with a rating that the service knows by another name. -/
def films : RecordType :=
  ⟨"Film", [⟨"id", .term (.named "str"), none, none, true⟩,
    ⟨"title", .term (.named "str"), none, none, true⟩,
    ⟨"release_date", .term (.named "date"), none, some (.value .null), true⟩,
    ⟨"mpaa_rating", .term (.named "str"), some "rating", some (.value (.text "")), true⟩], [], []⟩

/-- A query with two columns of one name at the service, and two of one name in the result. -/
def filmQuery : TableQuery :=
  (all (.record films) .camelCase (some "films")).chain
    [.select [.operand (.plain (.text "title")), .operand (.plain (.text "release_date"))]
      [("heading", .operand (.plain (.text "title"))),
        ("title", .operand (.plain (.text "mpaa_rating")))] .untyped]

theorem reader_of_selection_filmQuery :
    filmQuery.schema = .ok ⟨some films, .camelCase, ["id", "title", "mpaa_rating"]⟩ ∧
      ∃ r names, filmQuery.reader = .ok r ∧ ",".intercalate names = "title,releaseDate,rating" ∧
        r.read (.object [("rating", .text "R"), ("id", .text "x"), ("title", .text "Alien")]) =
          .ok (.plain (.dict [(.text "title", .text "R"), (.text "release_date", .null),
            (.text "heading", .text "Alien")])) := by
  have hresolves : List.Forall₂
      (Schema.Resolves ⟨some films, .camelCase, ["id", "title", "mpaa_rating"]⟩)
      [("title", .field ⟨"title", []⟩), ("release_date", .field ⟨"release_date", []⟩),
        ("heading", .field ⟨"title", []⟩), ("title", .field ⟨"mpaa_rating", []⟩)]
      [("title", "title"), ("release_date", "releaseDate"), ("heading", "title"),
        ("title", "rating")] := selectionColumns_eq_ok_iff.mp rfl
  obtain ⟨names, hreader, hreads, -, htext, -⟩ :=
    reader_of_selection (q := filmQuery) rfl rfl hresolves
  refine ⟨rfl, _, names, hreader, (Except.ok.inj htext).symm, ?_⟩
  exact Decoder.ofPartial_eq_ok_iff.mpr ((hreads none).dictionary rfl _)

/-- A query that selects the identifiers of notes into records of a type. -/
def noteQuery (t : RecordType) : TableQuery :=
  (all .untyped .camelCase (some "notes")).chain
    [.select [.operand (.plain (.text "id"))] [] (.record t)]

/-- The selection resolves, but no item is decoded into a type of which no record can be made. -/
theorem reader_noteQuery :
    (∀ t, (noteQuery t).schema = .ok (.untyped .camelCase) ∧
      (noteQuery t).spec.selection = some [("id", .field ⟨"id", []⟩)]) ∧
      (Schema.untyped .camelCase).Resolves ("id", .field ⟨"id", []⟩) ("id", "id") ∧
      ∀ t ∈ [Schema.guardedNotes, Schema.translatedNotes], ∃ r,
        (noteQuery t).reader = .ok r ∧ ∀ item, r.read (.object item) = .error .wrongType := by
  refine ⟨fun t => ⟨rfl, rfl⟩, ⟨rfl, _, rfl, rfl⟩, fun t ht => ⟨_, rfl, fun item => ?_⟩⟩
  refine Decoder.ofPartial_of_none ?_
  simp only [Projection.decode?, Schema.ofValues?_eq_none ht, Option.map_none]

end TableQuery

end PagedTables
