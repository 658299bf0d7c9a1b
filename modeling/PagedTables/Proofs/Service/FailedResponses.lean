import PagedTables.Proofs.Service.PageBodies
import PagedTables.Proofs.Text.Integers

/-!
# Responses that are failures

A response of any status other than success is a failure, whatever stands in its body and in its
headers, and a report of the failure says what the response says. Its status, its code and whether
it is worth to try again are known by the status, the excerpt is the start of the body, and the
seconds to wait are the integer that the header for them spells.

The main result says so, and when the message of the report is a text. A body may describe its error
by something else than a text, which then is the message as it is. In front of all other bodies the
message is a text that is not empty.
-/
namespace PagedTables

/-! ## Integers in headers -/

/-- A text spells an integer, and a value of another type may stand for one. -/
def Value.Spells (v : Value) (n : Int) : Prop :=
  match v.asText? with
  | some s => Text.SpellsInteger s n
  | none => v.toInteger = .ok n

theorem Value.toInteger_eq_ok_iff {v : Value} {n : Int} : v.toInteger = .ok n ↔ v.Spells n := by
  have htext (s : String) (shown : Value) :
      (Text.integerOf s).mapError (IntegerFault.ofFlaw shown) = .ok n ↔
        Text.SpellsInteger s n := by
    rw [← Text.integerOf_eq_ok_iff]
    cases Text.integerOf s <;> simp [Except.mapError]
  cases v with
  | text s => exact htext s _
  | member m =>
      obtain ⟨typeName, name, content⟩ := m
      cases content with
      | text s => exact htext s _
      | _ => rfl
  | _ => rfl

/-- A text is never taken for an infinite number. -/
theorem Value.toInteger_ne_infinite {v : Value} {s : String} (h : v.asText? = some s) :
    v.toInteger ≠ .error .infinite := by
  have htext (shown : Value) :
      (Text.integerOf s).mapError (IntegerFault.ofFlaw shown) ≠ .error .infinite := by
    rcases Text.integerOf s with (_ | _) | _ <;> simp [Except.mapError, IntegerFault.ofFlaw]
  cases v with
  | text s' =>
      cases h
      exact htext _
  | member m =>
      obtain ⟨typeName, name, content⟩ := m
      cases content with
      | text s' =>
          cases h
          exact htext _
      | _ => cases h
  | _ => cases h

namespace Response

variable {r : Response}

/-- The seconds to wait are those that the header spells; nothing is wrong with other headers. -/
theorem retryAfter_spec
    (hheader : ∀ v, r.header? "Retry-After" = some v → v.toInteger ≠ .error .infinite) :
    ∃ time, r.retryAfter = .ok time ∧
      ∀ n, time = some n ↔ ∃ v, r.header? "Retry-After" = some v ∧ v.Spells n := by
  simp only [← Value.toInteger_eq_ok_iff]
  cases hvalue : r.header? "Retry-After" with
  | none => exact ⟨none, by simp [retryAfter, hvalue], by simp⟩
  | some v =>
      rw [retryAfter, hvalue, Option.getD_some]
      cases hv : v.toInteger with
      | ok n =>
          refine ⟨some n, ?_, by simp [hv, eq_comm]⟩
          split
          · cases hv
          · rw [hv]
      | error fault =>
          have hfinite : fault ≠ .infinite := fun heq => hheader v hvalue (heq ▸ hv)
          refine ⟨none, ?_, by simp [hv]⟩
          split
          · rfl
          · rw [hv]
            cases fault <;> first | rfl | exact absurd rfl hfinite

/-! ## Messages -/

/--
The members of a body describe its error by something else than a text: by another value, which
counts as true.
-/
def DescribeBy (members : JsonObject) (v : Json) : Prop :=
  ∃ error, Json.get? members "error" = some (.object error) ∧
    Json.get? error "message" = some v ∧ v.toValue.isTruthy = true ∧ ∀ s, v ≠ .text s

theorem truthy?_eq_some_iff {v w : Value} : truthy? v = some w ↔ v.isTruthy = true ∧ v = w := by
  rw [truthy?]
  cases v.isTruthy <;> simp

/-- Where a body describes its error by something else than a text, that is the message. -/
theorem message?_of_describeBy {members : JsonObject} {v : Json} (h : DescribeBy members v) :
    message? members = some v.toValue := by
  obtain ⟨error, herror, hmessage, htruthy, -⟩ := h
  have herror := (Json.getD_eq_iff (by simp)).mpr herror
  have hnull : v ≠ .null := by
    rintro rfl
    cases htruthy
  have hmessage := (Json.getD_eq_iff hnull).mpr hmessage
  simp [message?, herror, hmessage, truthy?_eq_some_iff.mpr ⟨htruthy, rfl⟩]

/-- In all other bodies the message is a text that is not empty, if there is one. -/
theorem exists_text_of_message? {members : JsonObject} (hplain : ∀ v, ¬DescribeBy members v)
    {m : Value} (h : message? members = some m) : ∃ s, m = .text s ∧ s ≠ "" := by
  have hfilled {s : String} (h : truthy? (.text s) = some m) : ∃ s, m = .text s ∧ s ≠ "" := by
    obtain ⟨htruthy, rfl⟩ := truthy?_eq_some_iff.mp h
    exact ⟨s, rfl, by simpa [Value.isTruthy] using htruthy⟩
  rw [message?] at h
  rcases Option.or_eq_some_iff.mp h with h | ⟨-, h⟩
  · cases herror : Json.getD members "error" with
    | object error =>
        rw [herror] at h
        dsimp only at h
        cases hmessage : Json.getD error "message" with
        | text s =>
            rw [hmessage] at h
            exact hfilled h
        | null =>
            rw [hmessage] at h
            cases h
        | _ =>
            obtain ⟨htruthy, rfl⟩ := truthy?_eq_some_iff.mp h
            rw [hmessage] at htruthy
            exact absurd ⟨error, (Json.getD_eq_iff (by simp)).mp herror,
              (Json.getD_eq_iff (by simp)).mp hmessage, htruthy, by simp⟩ (hplain _)
    | text s =>
        rw [herror] at h
        exact hfilled h
    | _ =>
        rw [herror] at h
        cases h
  · cases hbeside : Json.getD members "message" with
    | text s =>
        rw [hbeside] at h
        exact hfilled h
    | _ =>
        rw [hbeside] at h
        cases h

/-- The line about the request stands in where a body has no message. -/
theorem message_failure (r : Response) (time : Option Int) (method : Value) (url : String) :
    (∀ members v, Json.parse? r.body = some (.object members) → DescribeBy members v →
      (r.failure time method url).message = v.toValue) ∧
    ((∀ members v, Json.parse? r.body = some (.object members) → ¬DescribeBy members v) →
      ∃ s, (r.failure time method url).message = .text s ∧ s ≠ "") := by
  have hline (s : String) : "HTTP " ++ s ≠ "" := by
    rw [ne_eq, ← String.toList_inj]
    simp
  constructor
  · intro members v hbody h
    have hmembers : ((Json.parse? r.body).bind Json.asObject?).getD [] = members := by
      rw [hbody]
      rfl
    simp only [failure, hmembers, message?_of_describeBy h, Option.getD_some]
  · intro hplain
    simp only [failure]
    cases hmessage : message? (((Json.parse? r.body).bind Json.asObject?).getD []) with
    | none => exact ⟨_, rfl, by simpa only [String.append_assoc] using hline _⟩
    | some m =>
        refine exists_text_of_message? (fun v => ?_) hmessage
        rcases hbody : Json.parse? r.body with _ | body
        · rintro ⟨error, herror, -⟩
          cases herror
        · cases body with
          | object members => exact hplain members v hbody
          | _ =>
              rintro ⟨error, herror, -⟩
              cases herror

end Response

/-! ## Reports -/

namespace Report

/-- The detail of a name. -/
def detail? (report : Report) (name : String) : Option Value :=
  match report.details with
  | .dict entries => (entries.find? fun entry => entry.1.sameKey (.text name)).map Prod.snd
  | _ => none

/-- A report tells what a response of a status other than success says, but for the message. -/
structure Tells (report : Report) (r : Response) (url : String) : Prop where
  kind : report.kind = .http
  code : report.code = .text "http_error"
  source : report.source = .text "server"
  status : report.status = .int r.status
  subcode : report.subcode = .text ("http_" ++ Text.ofInt r.status)
  isTransient : ∃ b, report.isTransient = .bool b ∧
    (b = true ↔ r.status = 429 ∨ r.status = 502 ∨ r.status = 503 ∨ r.status = 504)
  url : report.detail? "request_url" = some (.text url)
  /-- The first 200 characters of the body, if there are any. -/
  excerpt : report.detail? "body_excerpt" =
    if r.body = "" then none else some (.text (String.ofList (r.body.toList.take 200)))
  retryAfter : ∀ v, report.detail? "retry_after" = some v ↔
    ∃ n header, v = .int n ∧ r.header? "Retry-After" = some header ∧ header.Spells n

theorem sameKey_text (s t : String) : (Value.text s).sameKey (.text t) = (s == t) := rfl

/-- The details of a failed request are known by their names, but for those that are null. -/
theorem detail?_http (message status isTransient subcode serviceCode excerpt retryAfter : Value)
    (url : String) {report : Report} (hreport : report =
      http message status isTransient subcode serviceCode (.text url) excerpt retryAfter []) :
    report.detail? "request_url" = some (.text url) ∧
      report.detail? "body_excerpt" = excerpt.unlessNull ∧
      report.detail? "retry_after" = retryAfter.unlessNull := by
  have hdetail (name : String) (v : Value) (entries : Details) :
      detail name v entries =
        v.unlessNull.elim entries fun v => Value.insertEntry (.text name) v entries := by
    cases v <;> rfl
  subst hreport
  simp only [detail?, http, general, hdetail]
  cases serviceCode.unlessNull <;> cases excerpt.unlessNull <;> cases retryAfter.unlessNull <;>
    simp [Value.insertEntry, Value.unlessNull, sameKey_text]

/-- The report of a failed response tells what the response says. -/
theorem tells_failure {r : Response} {time : Option Int} (method : Value) (url : String)
    (htime : ∀ n, time = some n ↔ ∃ v, r.header? "Retry-After" = some v ∧ v.Spells n) :
    ∃ report, (Fault.http (r.failure time method url)).report? = some report ∧
      report.message = (r.failure time method url).message ∧ report.Tells r url := by
  have htransient : isTransientStatus r.status = true ↔
      r.status = 429 ∨ r.status = 502 ∨ r.status = 503 ∨ r.status = 504 := by
    simp [isTransientStatus, or_assoc]
  obtain ⟨hurl, hexcerpt, hretry⟩ := detail?_http _ _ _ _ _ _ _ _ rfl
  refine ⟨_, rfl, rfl, rfl, rfl, rfl, rfl, rfl, ⟨_, rfl, htransient⟩, hurl, ?_, ?_⟩
  · rw [hexcerpt]
    by_cases hempty : r.body = ""
    · simp [Response.failure, Response.excerpt?, hempty, textOr, Value.unlessNull]
    · simp [Response.failure, Response.excerpt?, hempty, textOr, Value.unlessNull,
        Response.cutExcerpt, Response.excerptLength]
  · intro v
    have hnumber : ((time.map Value.int).getD .null).unlessNull = time.map Value.int := by
      cases time <;> rfl
    rw [hretry, Response.failure, hnumber, Option.map_eq_some_iff]
    constructor
    · rintro ⟨n, hn, rfl⟩
      obtain ⟨header, hheader, hspells⟩ := (htime n).mp hn
      exact ⟨n, header, rfl, hheader, hspells⟩
    · rintro ⟨n, header, rfl, hheader, hspells⟩
      exact ⟨n, (htime n).mpr ⟨header, hheader, hspells⟩, rfl⟩

end Report

namespace Transport

variable {t : Transport} {method : Value} {name url : String} {headers : Option Headers}
  {e e' : Exchange} {r : Response}

/--
A response of a status other than success is a failure, whatever is in its body and its headers, as
long as no header is an infinite number in place of a text. The report of the failure tells what the
response says. Its message is a text that is not empty, unless the body describes its error by
something else than a text, which is the message then.
-/
theorem requestWith_failed (hmethod : method.asText? = some name)
    (hheader : ∀ v, r.header? "Retry-After" = some v → v.toInteger ≠ .error .infinite)
    (hstatus : r.status < 200 ∨ 300 ≤ r.status)
    (hsent : t.sender.request method url none headers e = (.ok r, e')) :
    ∃ failure report, t.requestWith method url headers e = (.error (.http failure), e') ∧
      (Fault.http failure).report? = some report ∧ report.Tells r url ∧
      ((∃ s, report.message = .text s ∧ s ≠ "") ↔
        ¬∃ members v, Json.parse? r.body = some (.object members) ∧
          Response.DescribeBy members v) ∧
      ∀ members v, Json.parse? r.body = some (.object members) →
        Response.DescribeBy members v → report.message = v.toValue := by
  obtain ⟨time, htime, hspelled⟩ := Response.retryAfter_spec hheader
  have hfailed : r.isSuccess = false := by
    simp only [Response.isSuccess, Bool.and_eq_false_iff, decide_eq_false_iff_not]
    omega
  have hupper : Sender.upperMethod method = .ok (.text (Text.upper name)) := by
    simp only [Sender.upperMethod, hmethod]
  obtain ⟨report, hreport, hmessage, htells⟩ :=
    Report.tells_failure (.text (Text.upper name)) url hspelled
  obtain ⟨hdescribed, htext⟩ := r.message_failure time (.text (Text.upper name)) url
  refine ⟨_, report, ?_, hreport, htells, ?_, ?_⟩
  · simp [requestWith, hsent, checked, hfailed, htime, hupper, bind, Except.bind]
  · rw [hmessage]
    constructor
    · rintro ⟨s, hs, -⟩ ⟨members, v, hbody, h⟩
      rw [hdescribed members v hbody h] at hs
      obtain ⟨error, -, -, -, hother⟩ := h
      cases v with
      | text s' => exact hother s' rfl
      | _ => cases hs
    · exact fun hplain => htext fun members v hbody h => hplain ⟨members, v, hbody, h⟩
  · rw [hmessage]
    exact hdescribed

/-- The response of a service that is busy for two minutes. -/
def busyService : Response :=
  ⟨503, [("retry-after", .text " +1_20 ")], "\x7b\"error\": \"Busy\"\x7d"⟩

theorem requestWith_failed_busyService :
    ∃ failure report e', plainTransport.requestWith (.text "get") "https://ds.example.com/x" none
        (.start [.response busyService] [] (.int 0) systemSleep) = (.error (.http failure), e') ∧
      (Fault.http failure).report? = some report ∧
      report.Tells busyService "https://ds.example.com/x" ∧
      (∃ s, report.message = .text s ∧ s ≠ "") ∧
      report.detail? "retry_after" = some (.int 120) := by
  obtain ⟨v, hv⟩ := Option.isSome_iff_exists.mp
    (show (busyService.header? "Retry-After").isSome = true by decide +kernel)
  have hkind : v.asText? = some " +1_20 " := by
    have : (busyService.header? "Retry-After").bind Value.asText? = some " +1_20 " := by
      decide +kernel
    simpa [hv] using this
  have hplain : ((Json.parse? busyService.body).bind Json.asObject?).all (fun members =>
      ((Json.get? members "error").bind Json.asObject?).isNone) = true := by
    decide +kernel
  have hmethod : (Value.text "get").asText? = some "get" := rfl
  have hheader : ∀ w, busyService.header? "Retry-After" = some w →
      w.toInteger ≠ .error .infinite := by
    intro w hw
    cases hv.symm.trans hw
    exact Value.toInteger_ne_infinite hkind
  have hsent : plainTransport.sender.request (.text "get") "https://ds.example.com/x" none none
      (.start [.response busyService] [] (.int 0) systemSleep) = (.ok busyService, _) := rfl
  obtain ⟨failure, report, hfailed, hreport, htells, hmessage, -⟩ :=
    requestWith_failed hmethod hheader (.inr (by decide)) hsent
  refine ⟨failure, report, _, hfailed, hreport, htells, hmessage.mpr ?_, ?_⟩
  · rintro ⟨members, described, hbody, error, herror, -⟩
    simp [hbody, Json.asObject?, herror] at hplain
  · refine (htells.retryAfter _).mpr ⟨120, v, rfl, hv, ?_⟩
    rw [Value.Spells, hkind]
    exact Text.integerOf_eq_ok_iff.mp (by decide +kernel)

/-- The response of a service that tells in which language it describes an error. -/
def localisedMiss : Response :=
  ⟨404, [], "\x7b\"error\": \x7b\"message\": \x7b\"value\": \"No such table\"\x7d\x7d\x7d"⟩

/-- The message of a report is not always a text. -/
theorem requestWith_localisedMiss :
    ¬∀ (t : Transport) (name url : String) (headers : Option Headers) (e e' : Exchange)
      (r : Response), (r.status < 200 ∨ 300 ≤ r.status) →
      t.sender.request (.text name) url none headers e = (.ok r, e') →
      ∃ failure report,
        t.requestWith (.text name) url headers e = (.error (.http failure), e') ∧
          (Fault.http failure).report? = some report ∧
          ∃ s, report.message = .text s ∧ s ≠ "" := by
  intro h
  obtain ⟨failure, report, hfailed, hreport, s, hs, -⟩ :=
    h plainTransport "get" "https://ds.example.com/x" none
      (.start [.response localisedMiss] [] (.int 0) systemSleep) _ localisedMiss (.inr (by decide))
      rfl
  have hmessage : (match (plainTransport.requestWith (.text "get") "https://ds.example.com/x" none
      (.start [.response localisedMiss] [] (.int 0) systemSleep)).1 with
    | .error fault => fault.report?.bind fun report => report.message.asText?
    | .ok _ => none) = none := by
    decide +kernel
  rw [hfailed] at hmessage
  simp [hreport, hs, Value.asText?] at hmessage

end Transport

end PagedTables
