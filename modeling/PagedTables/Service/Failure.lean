import PagedTables.Json.Parser
import PagedTables.Service.Sender

/-!
# Failed responses

A response of a status other than success becomes a failure. Its message is what the body says, in
one of the places where services put it, or else a line about the request. A header may say after
how many seconds to try again.
-/
namespace PagedTables

namespace Response

/-- The statuses of success. -/
def isSuccess (r : Response) : Bool :=
  200 ≤ r.status && r.status < 300

/-- The number of characters that are kept of a body. -/
def excerptLength : Nat := 200

/-- The start of a text. -/
def cutExcerpt (s : String) : String :=
  String.ofList (s.toList.take excerptLength)

/-- The start of the body, if it is not empty. -/
def excerpt? (r : Response) : Option String :=
  if r.body.isEmpty then none else some (cutExcerpt r.body)

/-- A header, whatever the case of its name; the last one of a name counts. -/
def header? (r : Response) (name : String) : Option Value :=
  (r.headers.reverse.find? fun h => Text.lower h.1 = Text.lower name).map Prod.snd

/-- The seconds after which to try again, if the header for it stands for an integer. -/
def retryAfter (r : Response) : Except Fault (Option Int) :=
  match (r.header? "Retry-After").getD .null with
  | .null => .ok none
  | v => match v.toInteger with
    | .ok n => .ok (some n)
    | .error .infinite => .error (.integer .infinite)
    | .error _ => .ok none

/-- The value, if it counts as true. -/
def truthy? (v : Value) : Option Value :=
  if v.isTruthy then some v else none

/-- The message in a body. -/
def message? (body : JsonObject) : Option Value :=
  let inError := match Json.getD body "error" with
    | .object error => truthy? (Json.getD error "message").toValue
    | .text s => truthy? (.text s)
    | _ => none
  let beside := match Json.getD body "message" with
    | .text s => truthy? (.text s)
    | _ => none
  inError.or beside

/-- The code of the service in a body. -/
def serviceCode? (body : JsonObject) : Option Value :=
  match Json.getD body "error" with
  | .object error =>
    match Json.getD error "code" with
    | .null => none
    | code => some code.toValue
  | _ => none

/-- The failure that a response is, for the request of a method, in upper case, and a URL. -/
def failure (r : Response) (retryAfter : Option Int) (method : Value) (url : String) :
    HttpFailure :=
  let body := ((Json.parse? r.body).bind Json.asObject?).getD []
  { message := (message? body).getD
      (.text ("HTTP " ++ Text.ofInt r.status ++ " from " ++ method.toText ++ " " ++ url))
    status := r.status
    serviceCode := serviceCode? body
    url := url
    excerpt := r.excerpt?
    retryAfter := retryAfter }

end Response

end PagedTables
