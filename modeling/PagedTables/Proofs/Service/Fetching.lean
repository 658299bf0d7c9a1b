import PagedTables.Proofs.Service.Attempts
import PagedTables.Service.Transport

/-!
# Fetches of pages

What a transport sends when it fetches a page, and what it makes of the answers. It may ask for a
token first, which is no matter of requests and sessions. All requests of a fetch go to one address,
which the target of the fetch determines. They are sent again only as long as they are lost, so that
the fetch is over with the first response, and it is this response that the page is decoded from.
-/
namespace PagedTables

/-! ## Asking for tokens -/

namespace Exchange

/-- From one moment to another nothing happened but that tokens were asked for. -/
structure Asks (e e' : Exchange) : Prop where
  sessions : e'.sessions = e.sessions
  replies : e'.replies = e.replies
  events : ∃ scopes : List Value, e'.events = e.events ++ scopes.map Event.askToken

theorem Asks.refl (e : Exchange) : e.Asks e :=
  ⟨rfl, rfl, [], (List.append_nil _).symm⟩

theorem asks_askToken (e : Exchange) (scope : Value) : e.Asks (e.askToken scope).2 := by
  rw [askToken]
  split
  · exact ⟨rfl, rfl, [scope], rfl⟩
  · exact ⟨rfl, rfl, [scope], rfl⟩
  · exact ⟨rfl, rfl, [scope], rfl⟩

theorem asks_renewToken (e : Exchange) (scope : Value) : e.Asks (e.renewToken scope).2 := by
  have hask := e.asks_askToken scope
  rw [renewToken]
  split
  · next hanswer => rwa [hanswer] at hask
  · next hanswer =>
      rw [hanswer] at hask
      split
      · exact hask
      · exact ⟨hask.sessions, hask.replies, hask.events⟩

theorem asks_acquireToken (e : Exchange) (scope : Value) : e.Asks (e.acquireToken scope).2 := by
  rw [acquireToken]
  split
  · exact .refl e
  · split
    · exact .refl e
    · split
      · exact e.asks_renewToken scope
      · split
        · exact .refl e
        · exact e.asks_renewToken scope
        · exact .refl e

theorem Asks.sends {e e' : Exchange} (h : e.Asks e') : e.Sends e' [] := by
  obtain ⟨scopes, hevents⟩ := h.events
  have hnone : requestsOf (scopes.map Event.askToken) = [] := by
    simp [requestsOf]
  refine .of_silent ?_ h.replies
  rw [hevents, requestsOf, List.filterMap_append]
  exact (congrArg _ hnone).trans (List.append_nil _)

end Exchange

theorem Transport.asks_headers (t : Transport) (e : Exchange) : e.Asks (t.headers e).2 := by
  have hacquire := e.asks_acquireToken t.scope
  rw [headers]
  split
  · split
    · next hanswer => rwa [hanswer] at hacquire
    · next hanswer => rwa [hanswer] at hacquire
  · exact .refl e

/-! ## Fetching pages -/

namespace Transport

variable {ι : Type}

/--
What a fetch sends and makes of it: reading requests to one address, again only as long as they are
lost, and the page in the last response if that is one of success. If nothing is sent, there is no
address, no token, or no count of attempts.
-/
structure FetchGroup (t : Transport) (bound : Nat) (decode : JsonObject → Except Fault ι)
    (address : Except Fault String) (answer : Except Fault (Page Int ι)) (sent : List Sent) :
    Prop where
  reads : ∀ s ∈ sent, s.request.method = .text "get" ∧ address = .ok s.request.url
  within : sent.length ≤ bound
  again : ∀ s ∈ sent.dropLast, s.isLost = true
  page : ∀ p, answer = .ok p ↔ ∃ r url, lastResponse? sent = some r ∧ r.isSuccess = true ∧
    address = .ok url ∧ pageOf decode url r.body = .ok p
  unsent : sent = [] → ∃ fault, answer = .error fault ∧
    (address = .error fault ∨ (∃ e e', t.headers e = (.error fault, e')) ∨
      t.sender.attempts.asInt? = none)

/-- Nothing is sent after a response, whatever its status is. -/
theorem FetchGroup.eq_nil_of_response
    {t : Transport} {bound : Nat} {decode : JsonObject → Except Fault ι}
    {address : Except Fault String} {answer : Except Fault (Page Int ι)}
    {before after : List Sent} {s : Sent} {r : Response}
    (h : t.FetchGroup bound decode address answer (before ++ s :: after))
    (hr : s.response? = some r) : after = [] := by
  cases after with
  | nil => rfl
  | cons next rest =>
      have hmem : s ∈ (before ++ s :: next :: rest).dropLast := by
        rw [List.dropLast_append_of_ne_nil (List.cons_ne_nil s (next :: rest)),
          List.dropLast_cons_of_ne_nil (List.cons_ne_nil next rest)]
        simp
      have hlost := s.response?_of_isLost (h.again s hmem)
      rw [hr] at hlost
      cases hlost

theorem checked_eq_ok_iff {method : Value} {url : String} {r r' : Response} :
    checked method url r = .ok r' ↔ r.isSuccess = true ∧ r = r' := by
  rw [checked]
  split
  · next hsuccess => simp [hsuccess, pure, Except.pure]
  · next hsuccess =>
      refine iff_of_false (fun h => ?_) fun h => hsuccess h.1
      obtain ⟨retryAfter, -, h⟩ := bind_eq_ok.mp h
      obtain ⟨shown, -, h⟩ := bind_eq_ok.mp h
      cases h

section

variable {t : Transport} {decode : JsonObject → Except Fault ι} {table : Value} {target : Target}
  {e e' : Exchange}

theorem fetchPage_of_headers_error {url : String} {fault : Fault}
    (haddress : t.pageUrl table target = .ok url) (hheaders : t.headers e = (.error fault, e')) :
    t.fetchPage decode table target e = (.error fault, e') := by
  simp only [fetchPage, haddress, request, hheaders]

/-- A page is made of the response to what is sent, if that is one of success. -/
theorem fetchPage_of_headers {url : String} {headers : Headers}
    (haddress : t.pageUrl table target = .ok url) (hheaders : t.headers e = (.ok headers, e')) :
    t.fetchPage decode table target e =
      ((t.sender.request (.text "get") url none (some headers) e').1 >>= fun r =>
          checked (.text "get") url r >>= fun r => pageOf decode url r.body,
        (t.sender.request (.text "get") url none (some headers) e').2) := by
  simp only [fetchPage, haddress, request, hheaders, requestWith]
  rcases t.sender.request (.text "get") url none (some headers) e' with ⟨fault | r, e''⟩
  · rfl
  · cases hchecked : checked (.text "get") url r with
    | error fault => simp [hchecked, bind, Except.bind]
    | ok r' => simp [hchecked, bind, Except.bind]

end

/-- A fetch makes attempts at one address. -/
theorem sends_fetchPage
    (t : Transport) {setting : Value}
    (hlimit : Sender.attemptLimit setting = .ok t.sender.attempts)
    (decode : JsonObject → Except Fault ι) (table : Value) (target : Target) (e : Exchange) :
    ∃ sent, e.Sends (t.fetchPage decode table target e).2 sent ∧
      t.FetchGroup (Sender.attemptBound setting) decode (t.pageUrl table target)
        (t.fetchPage decode table target e).1 sent := by
  have hheadersSent := (t.asks_headers e).sends
  cases haddress : t.pageUrl table target with
  | error fault =>
      rw [fetchPage, haddress]
      refine ⟨[], .refl e, by simp, Nat.zero_le _, by simp, ?_, ?_⟩
      · simp
      · exact fun _ => ⟨fault, rfl, .inl rfl⟩
  | ok url =>
      rcases hheaders : t.headers e with ⟨fault | headers, e'⟩
      · rw [hheaders] at hheadersSent
        rw [fetchPage_of_headers_error haddress hheaders]
        refine ⟨[], hheadersSent, by simp, Nat.zero_le _, by simp, ?_, ?_⟩
        · simp [lastResponse?]
        · exact fun _ => ⟨fault, rfl, .inr (.inl ⟨e, e', hheaders⟩)⟩
      · rw [hheaders] at hheadersSent
        rw [fetchPage_of_headers haddress hheaders]
        obtain ⟨r, sent, hmethod, hurl, hsends, hattempts, hunsent, hresponse⟩ :=
          Sender.sends_request_get hlimit url (some headers) e'
        have hpage (p : Page Int ι) :
            ((t.sender.request (.text "get") url none (some headers) e').1 >>= fun r =>
                checked (.text "get") url r >>= fun r => pageOf decode url r.body) = .ok p ↔
              ∃ r address, lastResponse? sent = some r ∧ r.isSuccess = true ∧
                .ok url = (.ok address : Except Fault String) ∧
                pageOf decode address r.body = .ok p := by
          simp only [bind_eq_ok, checked_eq_ok_iff, hresponse]
          constructor
          · rintro ⟨r, hlast, _, ⟨hsuccess, rfl⟩, hdecoded⟩
            exact ⟨r, url, hlast, hsuccess, rfl, hdecoded⟩
          · rintro ⟨r, _, hlast, hsuccess, ⟨⟩, hdecoded⟩
            exact ⟨r, hlast, r, ⟨hsuccess, rfl⟩, hdecoded⟩
        refine ⟨sent, hheadersSent.append hsends, ?_, hattempts.within, hattempts.again, hpage, ?_⟩
        · intro s hs
          rw [hattempts.same s hs, hmethod, hurl]
          exact ⟨rfl, rfl⟩
        · intro hnone
          subst hnone
          obtain ⟨fault, herror⟩ := exists_eq_error fun p hp => by
            obtain ⟨r, -, hlast, -⟩ := (hpage p).mp hp
            cases hlast
          exact ⟨fault, herror, .inr (.inr (hunsent rfl))⟩

end Transport

/-! ## Addresses -/

namespace Text

theorem mem_dropWhile_of_mem {p : Char → Bool} {c : Char} (hc : p c = false) {cs : List Char}
    (hmem : c ∈ cs) : c ∈ cs.dropWhile p := by
  induction cs with
  | nil => cases hmem
  | cons first rest ih =>
      rw [List.dropWhile_cons]
      split
      · next hfirst =>
          rcases List.mem_cons.mp hmem with rfl | hmem
          · rw [hc] at hfirst
            cases hfirst
          · exact ih hmem
      · exact hmem

theorem mem_dropEndWhile_of_mem {p : Char → Bool} {c : Char} (hc : p c = false) {cs : List Char}
    (hmem : c ∈ cs) : c ∈ dropEndWhile p cs :=
  List.mem_reverse.mpr (mem_dropWhile_of_mem hc (List.mem_reverse.mpr hmem))

/-- Something is left of a text that is not blank. -/
theorem trim_ne_empty {s : String} (h : allBlank s = false) : trim s ≠ "" := by
  obtain ⟨c, hmem, hc⟩ : ∃ c ∈ s.toList, isBlank c = false := by simpa [allBlank] using h
  intro htrim
  have hkept : c ∈ (trim s).toList := by
    rw [trim, String.toList_ofList]
    exact mem_dropEndWhile_of_mem hc (mem_dropWhile_of_mem hc hmem)
  rw [htrim] at hkept
  cases hkept

end Text

namespace Transport

/-- A query string without question marks in front. -/
def withoutMarks (s : String) : String :=
  String.ofList (s.toList.dropWhile (· = '?'))

theorem withoutMarks_eq_self_iff (s : String) :
    withoutMarks s = s ↔ s.toList.head? ≠ some '?' := by
  rw [withoutMarks, ← String.toList_inj, String.toList_ofList]
  rcases s.toList with _ | ⟨first, rest⟩
  · simp
  · by_cases hfirst : first = '?'
    · subst hfirst
      have hshorter : (rest.dropWhile (· = '?')).length ≤ rest.length :=
        (List.dropWhile_sublist _).length_le
      refine iff_of_false (fun h => ?_) (by simp)
      have hlength := congrArg List.length h
      simp only [decide_true, List.dropWhile_cons_of_pos, List.length_cons] at hlength
      omega
    · simp [hfirst]

/-- The address of the first page of a query on a table. -/
def firstAddress (base table query : String) : String :=
  base ++ "/tables/" ++ Text.lower (Text.trim table) ++ if query = "" then "" else "?" ++ query

/-- Where a link leads: to itself if it is an absolute URL, and else from the base. -/
def linkAddress (base : String) (link : Link) : Except Fault String :=
  match Url.isAbsolute link.text with
  | .ok true => .ok link.text
  | .ok false => (Url.join (base ++ "/") link.text).mapError .url
  | .error fault => .error (.url fault)

/-- The address of the page at a link, or of the first one. -/
def addressOf (base table query : String) : Option Link → Except Fault String
  | none => .ok (firstAddress base table query)
  | some link => linkAddress base link

theorem pageUrl_query
    (t : Transport) {table : String} (htable : Text.allBlank table = false) (s : String) :
    t.pageUrl (.text table) (.query (.text s)) =
      .ok (firstAddress t.baseUrl table (withoutMarks s)) := by
  have hfilled : (Value.text (Text.trim table)).isTruthy = true := by
    simp [Value.isTruthy, Text.trim_ne_empty htable]
  have htableUrl : t.tableUrl (.text table) =
      .ok (t.baseUrl ++ "/tables/" ++ Text.lower (Text.trim table)) := by
    simp [tableUrl, trimmed, Value.asText?, hfilled, bind, Except.bind, pure, Except.pure,
      tableUrl.lowered, Value.toText]
  have hquery : bareQuery (.text s) = .ok (withoutMarks s) := rfl
  rw [pageUrl, htableUrl, hquery, firstAddress]
  by_cases hempty : withoutMarks s = ""
  · simp [hempty, bind, Except.bind, pure, Except.pure]
  · simp [hempty, bind, Except.bind, pure, Except.pure, String.append_assoc]

theorem pageUrl_link (t : Transport) (table : Value) (link : Link) :
    t.pageUrl table (.link link) = linkAddress t.baseUrl link := by
  rw [pageUrl, linkAddress]
  rcases Url.isAbsolute link.text with fault | isAbsolute
  · rfl
  · cases isAbsolute <;> rfl

end Transport

end PagedTables
