import PagedTables.Proofs.Schema.Records

/-!
# Fields by their names at the service

Whether what a service sends under the name of a field comes back in that field. Several fields of a
type may come to one name at the service, and all of them are asked for under it. A schema keeps the
last of them only when it reads items, so that the others never get the value. They hold what they
do without one, although the item has a member of their name.
-/
namespace PagedTables

/-- What a record holds in a field. -/
def Record.get? (r : Record) (name : String) : Option Value :=
  (r.fields.lookup name).join

namespace RecordType

variable {t : RecordType} {f g : Field} {naming : Naming}

/-- No field after this one comes to the same name at the service. -/
def IsLastNamed (t : RecordType) (naming : Naming) (f : Field) : Prop :=
  ∃ before after, t.fields = before ++ f :: after ∧
    ∀ g ∈ after, g.nameUnder naming ≠ f.nameUnder naming

theorem find?_reverse_eq_some_iff {wire : String} :
    t.fields.reverse.find? (fun g => g.nameUnder naming = wire) = some f ↔
      f.nameUnder naming = wire ∧ t.IsLastNamed naming f := by
  rw [List.find?_eq_some_iff_append, decide_eq_true_iff]
  refine and_congr_right fun hwire => ?_
  constructor
  · rintro ⟨after, before, hfields, hothers⟩
    refine ⟨before.reverse, after.reverse, ?_, fun g hg => ?_⟩
    · simpa using congrArg List.reverse hfields
    · simpa [hwire] using hothers g (List.mem_reverse.mp hg)
  · rintro ⟨before, after, hfields, hothers⟩
    refine ⟨after.reverse, before.reverse, by simp [hfields], fun g hg => ?_⟩
    simpa [hwire] using hothers g (List.mem_reverse.mp hg)

/-- Among the fields that come to one name there is a last one. -/
theorem exists_isLastNamed (hf : f ∈ t.fields) (naming : Naming) :
    ∃ g ∈ t.fields, g.nameUnder naming = f.nameUnder naming ∧ t.IsLastNamed naming g := by
  obtain ⟨g, hg⟩ : ∃ g, t.fields.reverse.find?
      (fun g => g.nameUnder naming = f.nameUnder naming) = some g := by
    apply Option.isSome_iff_exists.mp
    exact List.find?_isSome.mpr ⟨f, List.mem_reverse.mpr hf, by simp⟩
  obtain ⟨hname, hlast⟩ := find?_reverse_eq_some_iff.mp hg
  exact ⟨g, List.mem_reverse.mp (List.mem_of_find?_eq_some hg), hname, hlast⟩

theorem IsLastNamed.unique (hf : t.IsLastNamed naming f) (hg : t.IsLastNamed naming g)
    (hname : g.nameUnder naming = f.nameUnder naming) : g = f :=
  Option.some.inj ((find?_reverse_eq_some_iff.mpr ⟨hname, hg⟩).symm.trans
    (find?_reverse_eq_some_iff.mpr ⟨rfl, hf⟩))

/-- A record holds in each of its fields what the field makes of the value that is given for it. -/
theorem get?_holding (hnames : (t.fields.map Field.name).Nodup) (given : Field → Option Value)
    (hf : f ∈ t.fields) : (t.holding given).get? f.name = f.held (given f) := by
  rw [Record.get?, holding, Json.lookup_map_of_nodup hnames (fun f => f.held (given f)) hf,
    Option.join_some]

end RecordType

namespace Schema

variable {s : Schema} {t : RecordType} {f owner : Field} {naming : Naming}

theorem record_of_ofRow (h : ofRow (.record t) naming = .ok s) :
    s.record = some t ∧ s.naming = naming := by
  rw [ofRow] at h
  cases hstrings : t.stringNames with
  | error flaw =>
      rw [hstrings] at h
      cases h
  | ok strings =>
      rw [hstrings] at h
      cases h
      exact ⟨rfl, rfl⟩

/-- The last field of a name takes the values that items have under it. -/
theorem attribute?_of_isLastNamed (hrecord : s.record = some t)
    (hlast : t.IsLastNamed s.naming owner) :
    s.attribute? (owner.nameUnder s.naming) = some owner.name := by
  have hfind : (s.wireNames.reverse.find? fun pair => pair.2 = owner.nameUnder s.naming) =
      some (owner.name, owner.nameUnder s.naming) := by
    rw [wireNames, hrecord]
    dsimp only
    rw [← List.map_reverse, List.find?_map]
    exact congrArg (Option.map _) (RecordType.find?_reverse_eq_some_iff.mpr ⟨rfl, hlast⟩)
  rw [attribute?, hfind, Option.map_some]

/-- From an item with one member, the last field of the member's name takes the value. -/
theorem decode?_single (hrecord : s.record = some t) (hordinary : t.isOrdinary = true)
    (hnames : (t.fields.map Field.name).Nodup) (hlast : t.IsLastNamed s.naming owner) (v : Json) :
    s.decode? [(owner.nameUnder s.naming, v)] = some (.record
      (t.holding fun g => if g.name = owner.name then some v.toValue else none)) := by
  rw [decode?_eq_holding_lookup hrecord hnames hordinary, givenValues, List.filterMap_cons,
    List.filterMap_nil]
  dsimp only
  rw [attribute?_of_isLastNamed hrecord hlast, Option.map_some]
  refine congrArg (some ∘ Item.record) (congrArg t.holding (funext fun g => ?_))
  by_cases hname : g.name = owner.name
  · simp [hname]
  · simp [hname, List.lookup_cons, beq_false_of_ne hname]

/--
What a service sends under the name of a field goes to the last field that comes to the name, and
all others hold what they do without a value. So it comes back in the field itself, whatever it is,
if and only if no field after that one comes to the same name.
-/
theorem decode_wireName (hschema : ofRow (.record t) naming = .ok s)
    (hordinary : t.isOrdinary = true) (hnames : (t.fields.map Field.name).Nodup)
    (hf : f ∈ t.fields) (hgiven : f.isGiven = true) :
    ∃ wire owner, s.wirePath? ⟨f.name, []⟩ = some wire ∧
      owner ∈ t.fields ∧ owner.nameUnder naming = wire ∧ t.IsLastNamed naming owner ∧
      (∀ v, ∃ r, s.decode? [(wire, v)] = some (.record r) ∧ ∀ g ∈ t.fields,
        r.get? g.name = g.held (if g.name = owner.name then some v.toValue else none)) ∧
      ((∀ v, ∃ r, s.decode? [(wire, v)] = some (.record r) ∧ r.get? f.name = some v.toValue) ↔
        t.IsLastNamed naming f) := by
  obtain ⟨hrecord, rfl⟩ := record_of_ofRow hschema
  obtain ⟨owner, howner, hwire, hlast⟩ := RecordType.exists_isLastNamed hf s.naming
  have hdecode := decode?_single hrecord hordinary hnames hlast
  have hheld (v : Json) := RecordType.get?_holding hnames
    (fun g => if g.name = owner.name then some v.toValue else none) hf
  refine ⟨f.nameUnder s.naming, owner, wirePath?_name hrecord hnames hf, howner, hwire, hlast,
    ?_, ?_⟩
  · intro v
    rw [← hwire, hdecode v]
    exact ⟨_, rfl, fun g hg => RecordType.get?_holding hnames _ hg⟩
  · rw [← hwire]
    constructor
    · intro hback
      -- What the field holds without a value is the same for every one that is sent.
      have hsame (v : Json) (hother : f.name ≠ owner.name) : f.fallback = v.toValue := by
        obtain ⟨r, hr, hvalue⟩ := hback v
        cases (hdecode v).symm.trans hr
        rw [hheld v, if_neg hother, Field.held, if_pos hgiven] at hvalue
        exact Option.some.inj hvalue
      have hname : f.name = owner.name := by
        by_contra hother
        have hcontra := (hsame (.bool true) hother).symm.trans (hsame (.bool false) hother)
        simp [Json.toValue] at hcontra
      rwa [List.inj_on_of_nodup_map hnames hf howner hname]
    · intro hself v
      obtain rfl := hself.unique hlast hwire
      refine ⟨_, hdecode v, ?_⟩
      rw [hheld v, if_pos rfl, Field.held, if_pos hgiven, Option.getD_some]

/-- Films with a release date and a rating, which the service knows by another name. -/
def ratedFilms : RecordType :=
  ⟨"Film", [⟨"release_date", .term (.named "str"), none, none, true⟩,
    ⟨"mpaa_rating", .term (.named "str"), some "rating", some (.value (.text "")), true⟩], [], []⟩

theorem decode_wireName_ratedFilms :
    ∃ s r, ofRow (.record ratedFilms) .camelCase = .ok s ∧
      s.wirePath? ⟨"release_date", []⟩ = some "releaseDate" ∧
      s.decode? [("releaseDate", .text "1979")] = some (.record r) ∧
      r.get? "release_date" = some (.text "1979") := by
  have hschema : ofRow (.record ratedFilms) .camelCase =
      .ok ⟨some ratedFilms, .camelCase, ["release_date", "mpaa_rating"]⟩ := rfl
  obtain ⟨wire, -, hwire, -, -, -, -, hback⟩ :=
    decode_wireName hschema (by decide +kernel) (by decide) (f := ratedFilms.fields[0])
      List.mem_cons_self rfl
  have hname : (⟨some ratedFilms, .camelCase, ["release_date", "mpaa_rating"]⟩ : Schema).wirePath?
      ⟨"release_date", []⟩ = some "releaseDate" := by
    decide +kernel
  obtain rfl : wire = "releaseDate" := Option.some.inj (hwire.symm.trans hname)
  obtain ⟨r, hr, hvalue⟩ := hback.mpr ⟨[], _, rfl, by decide +kernel⟩ (.text "1979")
  exact ⟨_, r, hschema, hwire, hr, hvalue⟩

/-- Films with two fields that come to one name. -/
def twiceDatedFilms : RecordType :=
  ⟨"Film", [⟨"release_date", .term (.named "str"), none, none, true⟩,
    ⟨"releaseDate", .term (.named "str"), none, none, true⟩], [], []⟩

/-- The release date is sent under a name that the other field takes back. -/
theorem decode_twiceDatedFilms :
    ∃ s, ofRow (.record twiceDatedFilms) .camelCase = .ok s ∧
      s.wirePath? ⟨"release_date", []⟩ = some "releaseDate" ∧
      s.decode? [("releaseDate", .text "1979")] = some (.record ⟨"Film",
        [("release_date", some .null), ("releaseDate", some (.text "1979"))]⟩) := by
  let s : Schema := ⟨some twiceDatedFilms, .camelCase, ["release_date", "releaseDate"]⟩
  have hname : (twiceDatedFilms.fields[1]).nameUnder s.naming = "releaseDate" := by decide +kernel
  have hlast : twiceDatedFilms.IsLastNamed s.naming twiceDatedFilms.fields[1] :=
    ⟨[_], [], rfl, by simp⟩
  have hdecode := decode?_single (s := s) rfl (by decide +kernel) (by decide) hlast (.text "1979")
  rw [hname] at hdecode
  exact ⟨s, rfl, by decide +kernel, hdecode⟩

end Schema

end PagedTables
