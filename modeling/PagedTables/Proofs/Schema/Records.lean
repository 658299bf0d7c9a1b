import PagedTables.Proofs.Json.Members
import PagedTables.Query.Request

/-!
# Records of items

What a record type makes of the members of an item. The service knows each field by a name. Where
these names are distinct, a field that is given values holds the one that the item has under its
name, and its default otherwise. Nothing else in the item counts.

The record is made by a constructor, which refuses values for fields that take none and asks for
every field that has no default. It accepts the arguments that a decoder puts together from the
values for any names, if the type is an ordinary one: no argument is demanded that no field holds,
and no declaration has a name that the language keeps for itself. Of a type that demands an argument
for which there is no field, and of one whose constructor is hidden by a default, no record is made.
-/
namespace PagedTables

/-- What a field that is given values holds without one: its default, or null if it is required. -/
def Field.fallback (f : Field) : Value :=
  (f.default.map FieldDefault.toValue).getD .null

/--
What a field holds in a record that is made with a value for it or without one. A field that is
never given a value holds its default, if it has any.
-/
def Field.held (f : Field) (given : Option Value) : Option Value :=
  if f.isGiven then some (given.getD f.fallback) else f.default.map FieldDefault.toValue

theorem Field.held_of_not_isGiven {f : Field} (h : f.isGiven = false) (given : Option Value) :
    f.held given = f.default.map FieldDefault.toValue := by
  simp [held, h]

/-- Null is what a required field holds without a value, and with null for one. -/
theorem Field.held_or_null (f : Field) (given : Option Value) :
    f.held (given.or (if f.isRequired then some .null else none)) = f.held given := by
  cases given with
  | some v => rfl
  | none =>
      cases hgiven : f.isGiven with
      | false => rw [held_of_not_isGiven hgiven, held_of_not_isGiven hgiven]
      | true => cases hdefault : f.default <;> simp [held, fallback, isRequired, hgiven, hdefault]

namespace RecordType

variable {t : RecordType} {f : Field} {values : List (String × Value)}

/-- The record whose fields hold what they make of given values. -/
def holding (t : RecordType) (given : Field → Option Value) : Record where
  typeName := t.name
  fields := t.fields.map fun f => (f.name, f.held (given f))

/-- The names that are declared. -/
def declared (t : RecordType) : List String :=
  t.fields.map Field.name ++ t.others.map SideDeclaration.name

/-- The name is of the form that the language keeps for itself. -/
def isReserved (name : String) : Bool :=
  "__".toList.isPrefixOf name.toList && "__".toList.isSuffixOf name.toList

/--
Records of the type can be made of values for its fields: no declaration has a reserved name, and no
argument is demanded that no field holds.
-/
def isOrdinary (t : RecordType) : Bool :=
  t.declared.all (fun name => !isReserved name) && !t.others.any SideDeclaration.isRequired

theorem holding_congr {given given' : Field → Option Value}
    (h : ∀ f ∈ t.fields, f.isGiven = true → f.held (given f) = f.held (given' f)) :
    t.holding given = t.holding given' := by
  refine congrArg (Record.mk t.name) (List.map_congr_left fun f hf => ?_)
  cases hgiven : f.isGiven with
  | false => rw [Field.held_of_not_isGiven hgiven, Field.held_of_not_isGiven hgiven]
  | true => rw [h f hf hgiven]

theorem construct_eq (t : RecordType) (given? : String → Option Value) :
    t.construct given? = t.holding fun f => given? f.name := by
  refine congrArg (Record.mk t.name) (List.map_congr_left fun f _ => ?_)
  cases hgiven : f.isGiven with
  | false => simp [Field.held, hgiven]
  | true =>
      cases hvalue : given? f.name with
      | some v => simp [Field.held, hgiven, hvalue]
      | none =>
          cases hdefault : f.default <;>
            simp [Field.held, Field.fallback, Field.isRequired, hgiven, hvalue, hdefault]

theorem mem_declared_of_mem_attributes {name : String} {v : Value} (h : (name, v) ∈ t.attributes) :
    name ∈ t.declared := by
  rcases List.mem_append.mp h with hfield | hother
  · obtain ⟨f, hf, hdefault⟩ := List.mem_filterMap.mp hfield
    refine List.mem_append_left _ (List.mem_map.mpr ⟨f, hf, ?_⟩)
    split at hdefault
    · exact congrArg Prod.fst (Option.some.inj hdefault)
    · cases hdefault
  · obtain ⟨d, hd, hvalue⟩ := List.mem_filterMap.mp hother
    obtain ⟨w, -, heq⟩ := Option.map_eq_some_iff.mp hvalue
    exact List.mem_append_right _ (List.mem_map.mpr ⟨d, hd, congrArg Prod.fst heq⟩)

theorem isMakeable_of_isOrdinary (h : t.isOrdinary = true) : t.isMakeable = true := by
  have hnames := (Bool.and_eq_true_iff.mp h).1
  have hmakers : ∀ name ∈ makers, isReserved name = true := by decide +kernel
  rw [isMakeable, Bool.not_eq_true', List.any_eq_false]
  rintro ⟨name, v⟩ hset hmaker
  have hfree := List.all_eq_true.mp hnames name (mem_declared_of_mem_attributes hset)
  rw [hmakers name (List.contains_iff_mem.mp hmaker)] at hfree
  cases hfree

/-- An ordinary type demands values of its fields only. -/
theorem demands_of_isOrdinary (h : t.isOrdinary = true) : t.demands = t.required := by
  have hothers := (Bool.and_eq_true_iff.mp h).2
  have hnone : t.others.filter SideDeclaration.isRequired = [] := by
    rw [List.filter_eq_nil_iff]
    exact List.any_eq_false.mp (by simpa using hothers)
  rw [demands, hnone, List.map_nil, List.append_nil]

/-- A value that stands in the place of a method by which records are made leaves none of them. -/
theorem ofValues?_eq_none_of_maker {name : String} {v : Value} (hmaker : name ∈ makers)
    (hset : (name, v) ∈ t.attributes) (values : List (String × Value)) :
    t.ofValues? values = none := by
  have hhidden : t.isMakeable = false := by
    rw [isMakeable, Bool.not_eq_false']
    exact List.any_eq_true.mpr ⟨_, hset, List.contains_iff_mem.mpr hmaker⟩
  rw [ofValues?, record?, hhidden, Bool.false_and, Bool.false_and, if_neg Bool.false_ne_true]

/-- No record is made of a type that demands an argument for which there is no field. -/
theorem ofValues?_eq_none_of_isRequired {d : SideDeclaration} (hd : d ∈ t.others)
    (hrequired : d.isRequired = true) (hname : d.name ∉ t.fields.map Field.name)
    (values : List (String × Value)) : t.ofValues? values = none := by
  have hfield : t.field? d.name = none := by
    rw [field?, List.find?_eq_none]
    intro f hf heq
    exact hname (List.mem_map.mpr ⟨f, hf, by simpa using heq⟩)
  have hmissing : (t.arguments values).lookup d.name = none := by
    rw [arguments, Json.lookup_filter_name fun name => (t.field? name).any Field.isGiven, hfield]
    rfl
  have hdemand : (t.demands.all fun name => ((t.arguments values).lookup name).isSome) = false := by
    rw [List.all_eq_false]
    refine ⟨d.name, ?_, by simp [hmissing]⟩
    exact List.mem_append_right _ (List.mem_map.mpr ⟨d, List.mem_filter.mpr ⟨hd, hrequired⟩, rfl⟩)
  rw [ofValues?, record?, hdemand, Bool.and_false, if_neg Bool.false_ne_true]

section Constructor

variable (hnames : (t.fields.map Field.name).Nodup)

include hnames

theorem field?_name (hf : f ∈ t.fields) : t.field? f.name = some f := by
  obtain ⟨g, hg⟩ : ∃ g, t.field? f.name = some g := by
    apply Option.isSome_iff_exists.mp
    exact List.find?_isSome.mpr ⟨f, hf, by simp⟩
  have hname : g.name = f.name := by simpa using List.find?_some hg
  rw [hg, List.inj_on_of_nodup_map hnames (List.mem_of_find?_eq_some hg) hf hname]

theorem mem_required_iff (hf : f ∈ t.fields) : f.name ∈ t.required ↔ f.isRequired = true := by
  rw [required, List.mem_map]
  constructor
  · rintro ⟨g, hg, hname⟩
    obtain ⟨hmem, hrequired⟩ := List.mem_filter.mp hg
    rw [← List.inj_on_of_nodup_map hnames hmem hf hname]
    exact hrequired
  · exact fun hrequired => ⟨f, List.mem_filter.mpr ⟨hf, hrequired⟩, rfl⟩

/-- A field that is given values has its own among the arguments, or null if it is required. -/
theorem lookup_arguments (hf : f ∈ t.fields) (hgiven : f.isGiven = true) :
    (t.arguments values).lookup f.name =
      (values.lookup f.name).or (if f.isRequired then some .null else none) := by
  rw [arguments, Json.lookup_filter_name fun name => (t.field? name).any Field.isGiven,
    field?_name hnames hf, Option.any_some, if_pos hgiven, List.lookup_append,
    Json.lookup_map_same]
  cases hvalue : values.lookup f.name with
  | some v => simp
  | none => simp [hvalue, mem_required_iff hnames hf]

/-- The constructor accepts the arguments, whatever the names are that have values. -/
theorem ofValues?_eq (hordinary : t.isOrdinary = true) (values : List (String × Value)) :
    t.ofValues? values = some (t.holding fun f => values.lookup f.name) := by
  have hknown : ((t.arguments values).all fun v => t.parameters.contains v.1) = true := by
    rw [List.all_eq_true]
    intro v hv
    have hfield := (List.mem_filter.mp hv).2
    cases hfound : t.field? v.1 with
    | none => simp [hfound] at hfield
    | some f =>
        have hgiven : f.isGiven = true := by simpa [hfound] using hfield
        have hname : f.name = v.1 := by simpa using List.find?_some hfound
        rw [List.contains_iff_mem, parameters, List.mem_append, List.mem_map]
        exact .inl ⟨f, List.mem_filter.mpr ⟨List.mem_of_find?_eq_some hfound, hgiven⟩, hname⟩
  have hcomplete : (t.demands.all fun name =>
      ((t.arguments values).lookup name).isSome) = true := by
    rw [demands_of_isOrdinary hordinary, List.all_eq_true]
    intro name hname
    obtain ⟨f, hf, rfl⟩ := List.mem_map.mp hname
    obtain ⟨hmem, hrequired⟩ := List.mem_filter.mp hf
    have hgiven : f.isGiven = true := (Bool.and_eq_true_iff.mp hrequired).1
    rw [lookup_arguments hnames hmem hgiven, if_pos hrequired]
    cases values.lookup f.name <;> rfl
  rw [ofValues?, record?, isMakeable_of_isOrdinary hordinary, hknown, hcomplete, Bool.and_self,
    Bool.and_self, if_pos rfl, construct_eq]
  refine congrArg some (holding_congr fun f hf hgiven => ?_)
  rw [lookup_arguments hnames hf hgiven, Field.held_or_null]

end Constructor

end RecordType

/-! ## Items -/

namespace Schema

variable {s : Schema} {t : RecordType} {f : Field} {item : JsonObject}

/-- The value that an item has for a field. -/
def valueOf? (s : Schema) (item : JsonObject) (f : Field) : Option Value :=
  (Json.get? item (f.nameUnder s.naming)).map Json.toValue

/-- The item in which each field that is given values has one under its name at the service. -/
def written (s : Schema) (t : RecordType) (values : String → Json) : JsonObject :=
  (t.fields.filter Field.isGiven).map fun f => (f.nameUnder s.naming, values f.name)

theorem lookup_givenValues (s : Schema) (item : JsonObject) (name : String) :
    (s.givenValues item).lookup name = item.findSome? fun (wire, value) =>
      if s.attribute? wire = some name then some value.toValue else none := by
  induction item with
  | nil => rfl
  | cons member rest ih =>
      obtain ⟨wire, value⟩ := member
      rw [List.findSome?_cons, ← ih, givenValues, List.filterMap_cons]
      dsimp only
      cases s.attribute? wire with
      | none => simp [givenValues]
      | some owner =>
          by_cases howner : name = owner
          · simp [howner]
          · simp [Ne.symm howner, beq_false_of_ne howner, givenValues, List.lookup_cons]

section

variable (hrecord : s.record = some t)

include hrecord

theorem exists_field_of_attribute? {wire name : String} (h : s.attribute? wire = some name) :
    ∃ f ∈ t.fields, f.name = name ∧ f.nameUnder s.naming = wire := by
  obtain ⟨pair, hpair, rfl⟩ := Option.map_eq_some_iff.mp h
  have hmem := List.mem_reverse.mp (List.mem_of_find?_eq_some hpair)
  rw [wireNames, hrecord] at hmem
  obtain ⟨f, hf, rfl⟩ := List.mem_map.mp hmem
  exact ⟨f, hf, rfl, by simpa using List.find?_some hpair⟩

variable (hnames : (t.fields.map Field.name).Nodup)

include hnames

/-- A record of an ordinary type is made of the values that the item gives. -/
theorem decode?_eq_holding_lookup (hordinary : t.isOrdinary = true) (item : JsonObject) :
    s.decode? item =
      some (.record (t.holding fun f => (s.givenValues item).lookup f.name)) := by
  rw [decode?, hrecord]
  exact congrArg (Option.map Item.record)
    (RecordType.ofValues?_eq hnames hordinary (s.givenValues item))

/-- The name at the service of a field alone. -/
theorem wirePath?_name (hf : f ∈ t.fields) :
    s.wirePath? ⟨f.name, []⟩ = some (f.nameUnder s.naming) := by
  rw [wirePath?, hrecord]
  simp [RecordType.field?_name hnames hf, String.intercalate_singleton]

variable (hwires : (t.fields.map fun f => f.nameUnder s.naming).Nodup)

include hwires

theorem attribute?_eq_some_iff (hf : f ∈ t.fields) (wire : String) :
    s.attribute? wire = some f.name ↔ wire = f.nameUnder s.naming := by
  constructor
  · intro h
    obtain ⟨g, hg, hname, rfl⟩ := exists_field_of_attribute? hrecord h
    rw [List.inj_on_of_nodup_map hnames hg hf hname]
  · rintro rfl
    have hmem : (f.name, f.nameUnder s.naming) ∈ s.wireNames := by
      rw [wireNames, hrecord]
      exact List.mem_map.mpr ⟨f, hf, rfl⟩
    obtain ⟨name, hname⟩ : ∃ name, s.attribute? (f.nameUnder s.naming) = some name := by
      apply Option.isSome_iff_exists.mp
      rw [attribute?, Option.isSome_map, List.find?_isSome]
      exact ⟨_, List.mem_reverse.mpr hmem, by simp⟩
    obtain ⟨g, hg, rfl, hwire⟩ := exists_field_of_attribute? hrecord hname
    rw [hname, List.inj_on_of_nodup_map hwires hg hf hwire]

theorem lookup_givenValues_name (hf : f ∈ t.fields) (item : JsonObject) :
    (s.givenValues item).lookup f.name = s.valueOf? item f := by
  rw [lookup_givenValues, valueOf?, Json.get?, List.lookup_eq_findSome?, List.map_findSome?]
  congr 1
  funext member
  by_cases hwire : member.1 = f.nameUnder s.naming
  · simp [attribute?_eq_some_iff hrecord hnames hwires hf, hwire]
  · simp [attribute?_eq_some_iff hrecord hnames hwires hf, hwire, Ne.symm hwire]

/-- Where names are distinct, each field looks for its own one. -/
theorem decode?_eq_holding (hordinary : t.isOrdinary = true) (item : JsonObject) :
    s.decode? item = some (.record (t.holding (s.valueOf? item))) := by
  rw [decode?_eq_holding_lookup hrecord hnames hordinary]
  refine congrArg (some ∘ Item.record) (RecordType.holding_congr fun f hf _ => ?_)
  rw [lookup_givenValues_name hrecord hnames hwires hf]

end

theorem valueOf?_of_perm_written (hwires : (t.fields.map fun f => f.nameUnder s.naming).Nodup)
    {values : String → Json} (hperm : item.Perm (s.written t values))
    (hf : f ∈ t.fields) (hgiven : f.isGiven = true) :
    s.valueOf? item f = some (values f.name).toValue := by
  have hkept : ((t.fields.filter Field.isGiven).map fun f => f.nameUnder s.naming).Nodup :=
    hwires.sublist (List.filter_sublist.map _)
  have hnames : ((s.written t values).map Prod.fst).Nodup := by
    simpa [written, List.map_map, Function.comp_def] using hkept
  have hvalue : (s.written t values).lookup (f.nameUnder s.naming) = some (values f.name) :=
    Json.lookup_map_of_nodup hkept (fun f => values f.name) (List.mem_filter.mpr ⟨hf, hgiven⟩)
  rw [valueOf?, Json.get?, ← Json.lookup_perm hperm.symm hnames, hvalue, Option.map_some]

/--
Every item is decoded into a record of an ordinary type, whose constructor accepts what the item
gives. A field that is given values holds the one under its name at the service. If the item has
none, it holds its default, or null if it is required. No other field takes anything from the item,
and nothing counts but what stands under the names of the fields that are given values. So a record
that is written under these names, in any order, is read back.
-/
theorem decode_record (hrecord : s.record = some t) (hordinary : t.isOrdinary = true)
    (hnames : (t.fields.map Field.name).Nodup)
    (hwires : (t.fields.map fun f => f.nameUnder s.naming).Nodup) (item : JsonObject) :
    s.read (.object item) = .ok (.record (t.holding (s.valueOf? item))) ∧
      t.record? (t.arguments (s.givenValues item)) = some (t.holding (s.valueOf? item)) ∧
      (∀ other : JsonObject, (∀ f ∈ t.fields, f.isGiven = true →
          s.valueOf? other f = s.valueOf? item f) →
        s.read (.object other) = s.read (.object item)) ∧
      ∀ values : String → Json, item.Perm (s.written t values) →
        s.read (.object item) =
          .ok (.record (t.holding fun f => some (values f.name).toValue)) := by
  have hread (item : JsonObject) :
      s.read (.object item) = .ok (.record (t.holding (s.valueOf? item))) :=
    Decoder.ofPartial_eq_ok_iff.mpr (decode?_eq_holding hrecord hnames hwires hordinary item)
  refine ⟨hread item, ?_, ?_, ?_⟩
  · refine (RecordType.ofValues?_eq hnames hordinary _).trans (congrArg some ?_)
    refine RecordType.holding_congr fun f hf _ => ?_
    rw [lookup_givenValues_name hrecord hnames hwires hf]
  · intro other hagree
    rw [hread other, hread item]
    exact congrArg (Except.ok ∘ Item.record) (RecordType.holding_congr fun f hf hgiven => by
      rw [hagree f hf hgiven])
  · intro values hperm
    rw [hread item]
    exact congrArg (Except.ok ∘ Item.record) (RecordType.holding_congr fun f hf hgiven => by
      rw [valueOf?_of_perm_written hwires hperm hf hgiven])

/-- Tasks with an owner that the service knows by another name and a rank that is never given. -/
def taskType : RecordType :=
  ⟨"Task", [⟨"id", .term (.named "str"), none, none, true⟩,
    ⟨"is_complete", .term (.named "bool"), none, some (.value (.bool false)), true⟩,
    ⟨"owner_name", .term (.named "str"), some "owner", some (.value .null), true⟩,
    ⟨"tags", .term (.named "list"), none, some .freshList, true⟩,
    ⟨"rank", .term (.named "int"), none, some (.value (.int 0)), false⟩], [], []⟩

/-- The schema of tasks. -/
def tasks : Schema :=
  ⟨some taskType, .camelCase, ["id", "owner_name"]⟩

/-- A task without an identifier, and with members by names that the service does not use. -/
def taskItem : JsonObject :=
  [("isComplete", .bool true), ("is_complete", .bool false), ("rank", .int 7),
    ("owner", .text "sam"), ("owner_name", .text "ada")]

theorem decode_record_taskItem :
    tasks.record = some taskType ∧ taskType.isOrdinary = true ∧
      (taskType.fields.map Field.name).Nodup ∧
      (taskType.fields.map fun f => f.nameUnder tasks.naming).Nodup ∧
      tasks.read (.object taskItem) = .ok (.record ⟨"Task", [("id", some .null),
        ("is_complete", some (.bool true)), ("owner_name", some (.text "sam")),
        ("tags", some (.list [])), ("rank", some (.int 0))]⟩) := by
  have hordinary : taskType.isOrdinary = true := by decide +kernel
  have hnames : (taskType.fields.map Field.name).Nodup := by decide
  have hwires : (taskType.fields.map fun f => f.nameUnder tasks.naming).Nodup := by decide +kernel
  refine ⟨rfl, hordinary, hnames, hwires, ?_⟩
  rw [(decode_record rfl hordinary hnames hwires taskItem).1]
  rfl

/-- Notes with a field of the name of a method that is called when a record is made. -/
def guardedNotes : RecordType :=
  ⟨"Note", [⟨"id", .term (.named "str"), none, none, true⟩,
    ⟨"__post_init__", .term (.named "object"), none, some (.value .null), true⟩], [], []⟩

/-- Notes that are made with a language, which is none of their fields. -/
def translatedNotes : RecordType :=
  ⟨"Note", [⟨"id", .term (.named "str"), none, none, true⟩],
    [⟨1, "language", .term (.named "str"), none, true⟩], []⟩

/-- No values make a record of one of these types. -/
theorem ofValues?_eq_none {t : RecordType} (ht : t ∈ [guardedNotes, translatedNotes])
    (values : List (String × Value)) : t.ofValues? values = none := by
  rcases List.mem_pair.mp ht with rfl | rfl
  · have hmaker : "__post_init__" ∈ RecordType.makers := by decide
    exact RecordType.ofValues?_eq_none_of_maker hmaker (List.mem_singleton.mpr rfl) values
  · exact RecordType.ofValues?_eq_none_of_isRequired (List.mem_singleton.mpr rfl) rfl (by decide)
      values

theorem decode?_eq_none {t : RecordType} (ht : t ∈ [guardedNotes, translatedNotes])
    (naming : Naming) (strings : List String) (item : JsonObject) :
    (⟨some t, naming, strings⟩ : Schema).decode? item = none := by
  simp only [decode?, ofValues?_eq_none ht, Option.map_none]

/-- No item is decoded into a record of these types, although their names are distinct. -/
theorem decode_guardedNotes :
    (guardedNotes.fields.map fun f => f.nameUnder .camelCase).Nodup ∧
      (translatedNotes.fields.map fun f => f.nameUnder .camelCase).Nodup ∧
      ∀ t ∈ [guardedNotes, translatedNotes], ∀ strings item,
        (⟨some t, .camelCase, strings⟩ : Schema).read (.object item) = .error .wrongType := by
  refine ⟨by decide +kernel, by decide +kernel, fun t ht strings item => ?_⟩
  exact Decoder.ofPartial_of_none (decode?_eq_none ht .camelCase strings item)

end Schema

end PagedTables
