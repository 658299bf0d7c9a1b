import PagedTables.Json.Printer
import PagedTables.Page.Decode
import PagedTables.Query.Request
import PagedTables.Service.Failure
import PagedTables.Service.Token
import PagedTables.Stream.Source
import PagedTables.Url.Basic

/-!
# Transports

A transport fetches pages of the tables of one service. The first page of a query is at the
address of the table, with the query string behind a question mark; the page of a link is at the
link if it is an absolute URL, and else where the link leads from the address of the service.
-/
namespace PagedTables

/-- Where a page is. -/
inductive Target where
  | query (text : Value)
  | link (link : Link)

/-- Access to the tables of a service. -/
structure Transport where
  baseUrl : String
  config : Config
  /-- Requests carry a token. -/
  usesTokens : Bool
  sender : Sender

namespace Transport

/--
The text or the string of bytes that a value is, without blanks around it; nothing counts as the
empty text.
-/
def trimmed (v : Value) : Except Fault Value :=
  match v.asText?, v with
  | some s, _ => .ok (.text (Text.trim s))
  | none, .bytes bs => .ok (if bs.isEmpty then .text "" else .bytes (Bytes.trim bs))
  | none, v => if v.isTruthy then .error .noAttribute else .ok (.text "")

/-- The address of a service, which has to be a text, without slashes at its end. -/
def address (what : Required) (v : Value) : Except Fault String := do
  match ← trimmed v with
  | .text s =>
    let s := String.ofList (Text.dropEndWhile (· = '/') s.toList)
    if s.isEmpty then .error (.required what) else .ok s
  | _ => .error .wrongType

/-- A transport to the service at an address. -/
def make (baseUrl : Value) (config : Config) (usesTokens : Bool) (session : Option Session) :
    Except Fault Transport := do
  return {
    baseUrl := ← address .baseUrl baseUrl
    config := config
    usesTokens := usesTokens
    sender := ← Sender.make config.attempts config.backoff config.timeout session }

/-- The scope of the tokens that requests carry. -/
def scope (t : Transport) : Value :=
  if t.config.scope.isTruthy then t.config.scope else .text (t.baseUrl ++ "/.default")

/-- A header that is sent if there is something in it. -/
def optionalHeader (name : String) (value : Value) : Headers :=
  if value.isTruthy then [(name, value)] else []

/-- The headers of a request, perhaps with a token. -/
def headersWith (t : Transport) (token : Option Token) : Headers :=
  [("Accept", .text "application/json"), ("ZUMO-API-VERSION", t.config.apiVersion)] ++
    token.toList.map (fun token => ("Authorization", .text ("Bearer " ++ token.text.toText))) ++
    optionalHeader "User-Agent" t.config.userAgent ++
    optionalHeader "X-ZUMO-INSTALLATION-ID" t.config.installation

/-- The headers of a request. -/
def headers (t : Transport) (e : Exchange) : Except Fault Headers × Exchange :=
  if t.usesTokens then
    match e.acquireToken t.scope with
    | (.ok token, e) => (.ok (t.headersWith (some token)), e)
    | (.error fault, e) => (.error fault, e)
  else (.ok (t.headersWith none), e)

/-- A response of success, or the fault that another one is. -/
def checked (method : Value) (url : String) (r : Response) : Except Fault Response := do
  if r.isSuccess then return r
  let retryAfter ← r.retryAfter
  .error (.http (r.failure retryAfter (← Sender.upperMethod method) url))

/-- Sends a request with the given headers. -/
def requestWith (t : Transport) (method : Value) (url : String) (headers : Option Headers)
    (e : Exchange) : Except Fault Response × Exchange :=
  match t.sender.request method url none headers e with
  | (.ok r, e) => (checked method url r, e)
  | (.error fault, e) => (.error fault, e)

/-- Sends a request. -/
def request (t : Transport) (method : Value) (url : String) (e : Exchange) :
    Except Fault Response × Exchange :=
  match t.headers e with
  | (.ok headers, e) => t.requestWith method url (some headers) e
  | (.error fault, e) => (.error fault, e)

/-- The address of a table. -/
def tableUrl (t : Transport) (table : Value) : Except Fault String := do
  let name ← trimmed table
  if !name.isTruthy then .error (.required .table)
  else return t.baseUrl ++ "/tables/" ++ (lowered name).toText
where
  /-- The name in lower case. -/
  lowered : Value → Value
    | .text s => .text (Text.lower s)
    | .bytes bs => .bytes (Bytes.lower bs)
    | v => v

/-- A query string, which has to be a text, without question marks in front. -/
def bareQuery (query : Value) : Except Fault String :=
  match query.asText?, query with
  | some s, _ => .ok (String.ofList (s.toList.dropWhile (· = '?')))
  | none, .bytes bs => if bs.isEmpty then .ok "" else .error .wrongType
  | none, v => if v.isTruthy then .error .noAttribute else .ok ""

/-- The address of a page. -/
def pageUrl (t : Transport) (table : Value) : Target → Except Fault String
  | .link link => do
    if ← (Url.isAbsolute link.text).mapError .url then return link.text
    else (Url.join (t.baseUrl ++ "/") link.text).mapError .url
  | .query text => do
    let url ← t.tableUrl table
    let query ← bareQuery text
    return if query.isEmpty then url else url ++ "?" ++ query

/-- The page in the body of a response from an address, whose items come last. -/
def pageOf {ι : Type} (decode : JsonObject → Except Fault ι) (url body : String) :
    Except Fault (Page Int ι) :=
  match Json.parse? body with
  | none => .error (.notJson url)
  | some json => do
    let page ← (Page.ofJson json).mapError fun flaw =>
      .notAPage url flaw (Response.cutExcerpt json.print)
    page.mapItems decode

/-- Fetches a page. -/
def fetchPage {ι : Type} (t : Transport) (decode : JsonObject → Except Fault ι) (table : Value)
    (target : Target) (e : Exchange) : Except Fault (Page Int ι) × Exchange :=
  match t.pageUrl table target with
  | .error fault => (.error fault, e)
  | .ok url =>
    match t.request (.text "get") url e with
    | (.ok r, e) => (pageOf decode url r.body, e)
    | (.error fault, e) => (.error fault, e)

/-- Gives up the session. -/
def close (t : Transport) (e : Exchange) : Transport × Exchange :=
  let (sender, e) := t.sender.close e
  ({ t with sender := sender }, e)

/-- Tokens are no replies to requests. -/
theorem replies_headers (t : Transport) (e : Exchange) : (t.headers e).2.replies = e.replies := by
  unfold headers
  split
  · have := e.replies_acquireToken t.scope
    split <;> next h => simpa [h] using this
  · rfl

/-- A page uses up a reply. -/
theorem replies_length_of_fetchPage {ι : Type} {t : Transport}
    {decode : JsonObject → Except Fault ι} {table : Value} {target : Target} {e e' : Exchange}
    {p : Page Int ι}
    (h : t.fetchPage decode table target e = (.ok p, e')) :
    e'.replies.length < e.replies.length := by
  unfold fetchPage at h
  split at h
  · simp at h
  · split at h
    · next r mid hr =>
      obtain rfl : mid = e' := congrArg Prod.snd h
      unfold request at hr
      split at hr
      · next hs mid' hh =>
        unfold requestWith at hr
        split at hr
        · next hq =>
          obtain rfl := congrArg Prod.snd hr
          have := Sender.replies_length_of_request hq
          have hk := replies_headers t e
          rw [hh] at hk
          simpa [← hk] using this
        · simp at hr
      · simp at hr
    · simp at h

end Transport

end PagedTables
