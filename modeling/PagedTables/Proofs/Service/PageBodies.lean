import PagedTables.Proofs.Json.Reading
import PagedTables.Proofs.Schema.Projections
import PagedTables.Proofs.Service.Fetching

/-!
# Bodies that are pages

Which bodies of responses become pages, and what is in these. A body is a page if it is an object
with a list of objects, an integer for a count if there is any, and a text for a link if there is
any. Everything else is refused, with the start of the body. A body that is not read as a value is
refused too, which may be a page all the same: a count of too many digits is not read.

Nothing fails after that, as long as records are of an ordinary type. Whatever reads the items makes
something of each: the dictionary of its members, the dictionary of the columns, or a record. A link
is made of a text that is not empty only.
-/
namespace PagedTables

/-! ## The shape of a body -/

/-- The members of an object are those of a page. -/
structure PageMembers (members : JsonObject) : Prop where
  items : ∃ objects : List JsonObject,
    Json.get? members "items" = some (.array (objects.map Json.object))
  count : ∀ value, Json.get? members "count" = some value → value = .null ∨ ∃ n, value = .int n
  nextLink : ∀ value, Json.get? members "nextLink" = some value →
    value = .null ∨ ∃ s, value = .text s

/-- The body of a response is a page. -/
def Json.IsPage (body : Json) : Prop :=
  ∃ members, body = .object members ∧ PageMembers members

namespace Page

theorem objects?_eq_some_iff {value : Json} {objects : List JsonObject} :
    objects? value = some objects ↔ value = .array (objects.map Json.object) := by
  have hobject (j : Json) (members : JsonObject) :
      j.asObject? = some members ↔ j = .object members := by
    cases j <;> simp [Json.asObject?]
  have hobjects (items : List Json) :
      items.mapM Json.asObject? = some objects ↔ items = objects.map Json.object := by
    induction items generalizing objects with
    | nil => cases objects <;> simp
    | cons item items ih => cases objects <;> simp [Option.bind_eq_some_iff, hobject, ih]
  cases value with
  | array items => simp [objects?, hobjects]
  | _ => simp [objects?]

theorem count?_eq_some_iff {value : Json} {count : Option Int} :
    count? value = some count ↔ value = (count.map Json.int).getD .null := by
  cases value <;> cases count <;> simp [count?]

theorem linkText?_eq_some_iff {value : Json} {link : Option String} :
    linkText? value = some link ↔ value = (link.map Json.text).getD .null := by
  cases value <;> cases link <;> simp [linkText?]

end Page

namespace Json

variable {α : Type} {members : JsonObject} {name : String} {value : Json}

theorem getD_eq_iff (h : value ≠ .null) :
    getD members name = value ↔ get? members name = some value := by
  rw [getD, get?]
  cases members.lookup name with
  | none => simp [Ne.symm h]
  | some v => simp

/-- A member that is there at most: of one kind of values, or null. -/
theorem exists_getD_eq_iff {kind : α → Json} :
    (∃ a : Option α, getD members name = (a.map kind).getD .null) ↔
      ∀ value, get? members name = some value → value = .null ∨ ∃ a, value = kind a := by
  rw [getD, get?]
  cases members.lookup name with
  | none => exact iff_of_true ⟨none, rfl⟩ (by simp)
  | some v =>
      constructor
      · rintro ⟨_ | a, ha⟩ value hvalue
        · exact .inl ((Option.some.inj hvalue).symm.trans ha)
        · exact .inr ⟨a, (Option.some.inj hvalue).symm.trans ha⟩
      · intro h
        rcases h v rfl with hnull | ⟨a, ha⟩
        · exact ⟨none, hnull⟩
        · exact ⟨some a, ha⟩

end Json

namespace Page

variable {body : Json} {p : Page Int JsonObject}

theorem ofJson_eq_ok_iff :
    ofJson body = .ok p ↔ ∃ (members : JsonObject) (objects : List JsonObject)
      (count : Option Int) (link : Option String), body = .object members ∧
      Json.getD members "items" = .array (objects.map Json.object) ∧
      Json.getD members "count" = (count.map Json.int).getD .null ∧
      Json.getD members "nextLink" = (link.map Json.text).getD .null ∧
      p = ⟨objects, count, link.bind Link.ofText?⟩ := by
  simp only [← objects?_eq_some_iff, ← count?_eq_some_iff, ← linkText?_eq_some_iff]
  unfold ofJson
  cases body with
  | object members =>
      dsimp only
      cases hobjects : objects? (Json.getD members "items") with
      | none => simp [hobjects]
      | some objects =>
          cases hcount : count? (Json.getD members "count") with
          | none => simp [hcount]
          | some count =>
              cases hlink : linkText? (Json.getD members "nextLink") with
              | none => simp [hlink]
              | some link => simp [hobjects, hcount, hlink, eq_comm]
  | _ => simp

/-- A body is accepted if it has the shape of a page. -/
theorem exists_ofJson_eq_ok_iff : (∃ p, ofJson body = .ok p) ↔ body.IsPage := by
  simp only [ofJson_eq_ok_iff]
  constructor
  · rintro ⟨p, members, objects, count, link, rfl, hitems, hcount, hlink, -⟩
    refine ⟨members, rfl, ⟨objects, (Json.getD_eq_iff (by simp)).mp hitems⟩, ?_, ?_⟩
    · exact Json.exists_getD_eq_iff.mp ⟨count, hcount⟩
    · exact Json.exists_getD_eq_iff.mp ⟨link, hlink⟩
  · rintro ⟨members, rfl, ⟨objects, hitems⟩, hcount, hlink⟩
    obtain ⟨count, hcount⟩ := Json.exists_getD_eq_iff.mpr hcount
    obtain ⟨link, hlink⟩ := Json.exists_getD_eq_iff.mpr hlink
    exact ⟨_, members, objects, count, link, rfl, (Json.getD_eq_iff (by simp)).mpr hitems, hcount,
      hlink, rfl⟩

/-- Where something is made of every item, the page is that of what is made. -/
theorem mapItems_eq_ok {κ ι α ε : Type} {decode : ι → Except ε α} {made : ι → α} {p : Page κ ι}
    (h : ∀ item ∈ p.items, decode item = .ok (made item)) :
    p.mapItems decode = .ok ⟨p.items.map made, p.count, p.next⟩ := by
  have hitems : p.items.mapM decode = .ok (p.items.map made) := by
    rw [mapM_eq_ok_iff, List.forall₂_map_right_iff, List.forall₂_same]
    exact h
  rw [mapItems, hitems]
  rfl

end Page

/-! ## Items -/

/-- The dictionary of the members of an object. -/
def Item.ofMembers (members : JsonObject) : Item :=
  .plain (.dict (members.map fun member => (.text member.1, member.2.toValue)))

theorem Item.ofObject_eq (members : JsonObject) : ofObject members = ofMembers members := by
  have hentries : Json.toEntries members =
      members.map fun member => (.text member.1, member.2.toValue) := by
    induction members with
    | nil => rfl
    | cons member rest ih => rw [Json.toEntries, ih, List.map_cons]
  rw [ofObject, Json.toValue, hentries, ofMembers]

namespace Reader

/-- The type of the records that are made, if any are. -/
def recordType? : Reader → Option RecordType
  | rows s => s.record
  | columns p => p.into

/-- What becomes of the items of a page; without a reader they stay as they are. -/
def decoderOf (reader : Option Reader) : Decoder :=
  (reader.map decode).getD .plain

/--
The item that is made of an object: the dictionary of its members, a record of the values that it
gives to fields, the dictionary of the columns, or a record of the values of the columns.
-/
def made : Option Reader → JsonObject → Item
  | none, members => .ofMembers members
  | some (rows s), members =>
    match s.record with
    | none => .ofMembers members
    | some t => .record (t.holding fun f => (s.givenValues members).lookup f.name)
  | some (columns p), members =>
    match p.into with
    | none => .plain (.dict ((firstOccurrences (p.columns.map Prod.fst)).map fun out =>
        (.text out, (p.shown? members out).getD .null)))
    | some t => .record (t.holding fun f => p.shown? members f.name)

/-- Records are of an ordinary type whose fields have names of their own. -/
def MakesRecords (reader : Option Reader) : Prop :=
  ∀ t, reader.bind recordType? = some t →
    t.isOrdinary = true ∧ (t.fields.map Field.name).Nodup

/-- Something is made of every object. -/
theorem decoderOf_eq_ok {reader : Option Reader} (h : MakesRecords reader) (members : JsonObject) :
    decoderOf reader members = .ok (made reader members) := by
  match reader, h with
  | none, _ => exact congrArg Except.ok (Item.ofObject_eq members)
  | some (rows s), h =>
      refine Decoder.ofPartial_eq_ok_iff.mpr ?_
      cases hrecord : s.record with
      | none => simp only [Schema.decode?, made, hrecord, Item.ofObject_eq]
      | some t =>
          obtain ⟨hordinary, hnames⟩ := h t hrecord
          rw [Schema.decode?_eq_holding_lookup hrecord hnames hordinary]
          simp only [made, hrecord]
  | some (columns p), h =>
      refine Decoder.ofPartial_eq_ok_iff.mpr ?_
      cases hinto : p.into with
      | none =>
          rw [p.reads.dictionary hinto]
          simp only [made, hinto]
      | some t =>
          obtain ⟨hordinary, hnames⟩ := h t hinto
          rw [p.reads.record t hinto hordinary hnames]
          simp only [made, hinto]

end Reader

/-! ## Pages -/

/-- A page shows what the members of a body say. -/
structure Page.Shows (reader : Option Reader) (members : JsonObject) (p : Page Int Item) :
    Prop where
  items : ∃ objects : List JsonObject,
    Json.get? members "items" = some (.array (objects.map Json.object)) ∧
    (∀ object ∈ objects, (object.map Prod.fst).Nodup) ∧
    p.items = objects.map (Reader.made reader)
  count : ∀ n, p.count = some n ↔ Json.get? members "count" = some (.int n)
  /-- A link has some text, so that there is none for an empty one. -/
  next : ∀ link, p.next = some link ↔ Json.get? members "nextLink" = some (.text link.text)

theorem Link.ofText?_eq_some_iff {s : String} {link : Link} :
    ofText? s = some link ↔ s = link.text := by
  obtain ⟨text, hne⟩ := link
  rw [ofText?]
  split
  · next hempty => simpa [hempty] using Ne.symm hne
  · simp

theorem Page.shows_of_ofJson (reader : Option Reader) {members : JsonObject}
    (hbody : (Json.object members).IsNamedOnce) {p : Page Int JsonObject}
    (h : ofJson (.object members) = .ok p) :
    Page.Shows reader members ⟨p.items.map (Reader.made reader), p.count, p.next⟩ := by
  obtain ⟨_, objects, count, link, ⟨⟩, hitems, hcount, hlink, rfl⟩ := ofJson_eq_ok_iff.mp h
  have hitems := (Json.getD_eq_iff (by simp)).mp hitems
  have hobjects : ∀ object ∈ objects, (object.map Prod.fst).Nodup := fun object hobject =>
    ((hbody.get? hitems).item _ (List.mem_map_of_mem hobject)).nodup
  refine ⟨⟨objects, hitems, hobjects, rfl⟩, fun n => ?_, fun next => ?_⟩
  · rw [← Json.getD_eq_iff (by simp), hcount]
    cases count <;> simp
  · rw [← Json.getD_eq_iff (by simp), hlink]
    cases link <;> simp [Link.ofText?_eq_some_iff]

/-! ## Fetches -/

/-- The fault says that a body is no page, with at most 200 characters from the start of it. -/
def Fault.RefusesBody (fault : Fault) (url : String) (body : Json) : Prop :=
  ∃ report excerpt, fault.report? = some report ∧ report.kind = .decode ∧
    report.subcode = .text "decode_not_a_page" ∧
    report.details =
      .dict [(.text "request_url", .text url), (.text "body_excerpt", .text excerpt)] ∧
    excerpt.length ≤ 200 ∧ excerpt.toList <+: body.print.toList

theorem Fault.refusesBody_notAPage (url : String) (flaw : PageFlaw) (body : Json) :
    (Fault.notAPage url flaw (Response.cutExcerpt body.print)).RefusesBody url body := by
  refine ⟨_, Response.cutExcerpt body.print, rfl, rfl, rfl, rfl, ?_, ?_⟩
  · rw [Response.cutExcerpt, String.length_ofList, List.length_take]
    exact Nat.min_le_left _ _
  · rw [Response.cutExcerpt, String.toList_ofList]
    exact List.take_prefix _ _

namespace Transport

variable {t : Transport} {table : Value} {target : Target} {e mid : Exchange} {url : String}
  {headers : Headers} {r : Response} {body : Json} {reader : Option Reader}

section

variable (haddress : t.pageUrl table target = .ok url) (hheaders : t.headers e = (.ok headers, mid))
  (hresponse : (t.sender.request (.text "get") url none (some headers) mid).1 = .ok r)
  (hsuccess : r.isSuccess = true)

include haddress hheaders hresponse hsuccess

/-- The result of a fetch is what is made of the body of a response of success. -/
theorem fetchPage_eq_pageOf {ι : Type} (decode : JsonObject → Except Fault ι) :
    (t.fetchPage decode table target e).1 = pageOf decode url r.body := by
  rw [fetchPage_of_headers haddress hheaders, hresponse]
  simp only [bind, Except.bind, checked_eq_ok_iff.mpr ⟨hsuccess, rfl⟩]

end

/-- A transport that asks for no tokens. -/
def plainTransport : Transport :=
  ⟨"https://ds.example.com", .default, false, ⟨.int 1, .int 0, .null, none⟩⟩

/-- A response of success with a body. -/
def answering (body : String) : Response :=
  ⟨200, [], body⟩

/-- What becomes of a body that is answered to the request for the first page of tasks. -/
def answered (reader : Option Reader) (body : String) : Except Fault (Page Int Item) :=
  (plainTransport.fetchPage (Reader.decoderOf reader) (.text "tasks") (.query (.text ""))
    (.start [.response (answering body)] [] (.int 0) systemSleep)).1

/-- A page of one task, with an empty link. -/
def taskBody : String :=
  "\x7b\"items\": [\x7b\"owner\": \"sam\"\x7d], \"count\": 2, \"nextLink\": \"\"\x7d"

/-- The value of that body. -/
def taskPage : Json :=
  .object [("items", .array [.object [("owner", .text "sam")]]), ("count", .int 2),
    ("nextLink", .text "")]

theorem spells_taskBody : Json.Spells taskBody taskPage where
  read := by
    simp [Json.read, taskBody, Json.skipSpace, Json.isSpace, Json.readValue, Json.readMembers,
      Json.readItems, Json.readText, Json.readChars?, Json.readNumber, Json.takeMinus,
      Json.takeFraction, Json.takeExponent, Json.wordValues, Json.afterWord?, Json.setMember,
      taskPage, Text.maxIntegerDigits, bind, Except.bind, Except.map, pure, Except.pure]
    rfl
  paired := by decide +kernel

theorem isPage_taskPage : taskPage.IsPage :=
  ⟨_, rfl, ⟨[[("owner", .text "sam")]], rfl⟩, by rintro _ ⟨⟩; exact .inr ⟨2, rfl⟩,
    by rintro _ ⟨⟩; exact .inr ⟨"", rfl⟩⟩

theorem makesRecords_tasks : Reader.MakesRecords (some (.rows Schema.tasks)) := by
  rintro _ ⟨⟩
  exact ⟨by decide +kernel, by decide⟩

theorem answered_eq (reader : Option Reader) (body : String) : answered reader body =
    pageOf (Reader.decoderOf reader) "https://ds.example.com/tables/tasks" body :=
  fetchPage_eq_pageOf (r := answering body) rfl rfl rfl rfl _

/-- A page without items that has a count. -/
def countPage (n : Nat) : Json :=
  .object [("count", .int n), ("items", .array [])]

theorem isPage_countPage (n : Nat) : (countPage n).IsPage :=
  ⟨_, rfl, ⟨[], rfl⟩, by rintro _ ⟨⟩; exact .inr ⟨n, rfl⟩, nofun⟩

/-- A count of more digits than are read has its page be refused as no JSON. -/
theorem answered_countPage {n : Nat} (hlong : 10 ^ Text.maxIntegerDigits ≤ n)
    (reader : Option Reader) : answered reader (countPage n).print =
      .error (.notJson "https://ds.example.com/tables/tasks") := by
  rw [answered_eq, pageOf, Json.parse?, countPage, Json.read_longCount hlong]
  rfl

/-- A page of one note. -/
def notePage : Json :=
  .object [("items", .array [.object []])]

/-- What reads notes that cannot be made. -/
def noteReader : Reader :=
  .rows ⟨some Schema.guardedNotes, .camelCase, ["id"]⟩

end Transport

end PagedTables
