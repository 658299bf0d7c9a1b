import PagedTables.Service.Exchange
import PagedTables.Text.Bytes
import PagedTables.Text.Case

/-!
# Senders

A sender sends requests, through a session or without one. A request that only reads is sent again
when it fails without a response, after a wait that doubles every time; other requests are sent
once. A response ends the attempts whatever its status is.

Limits and waits are values as they come from settings. A limit of at most one means one attempt;
a greater one that is no integer cannot be counted, and a wait that cannot be doubled fails when
it is due, as one does that the surroundings refuse.
-/
namespace PagedTables

/-- How requests are sent. -/
structure Sender where
  /-- How often a reading request is sent at most. -/
  attempts : Value
  baseDelay : Value
  /-- How long a response may take, or null. -/
  timeout : Value
  session : Option Session

namespace Sender

/-- The greater one of a limit and 1, and 5 if there is no limit. -/
def attemptLimit (given : Value) : Except Fault Value :=
  match given with
  | .null => .ok (.int 5)
  | v =>
    match v.ordering 1 with
    | .ok order => .ok (if order = some .gt then v else .int 1)
    | .error fault => .error fault.fault

/-- A sender with the given settings, or five attempts and half a second. -/
def make (attempts backoff timeout : Value) (session : Option Session) : Except Fault Sender := do
  return {
    attempts := ← attemptLimit attempts
    baseDelay := backoff.unlessNull.getD (.float (.ofRatio false 1 2))
    timeout := timeout
    session := session }

/-- The name of a method in lower case; nothing and bytes count as no name. -/
def foldMethod (method : Value) : Except Fault String :=
  match method.asText?, method with
  | some s, _ => .ok (Text.lower s)
  | none, .bytes _ => .ok ""
  | none, v => if v.isTruthy then .error .noAttribute else .ok ""

/-- The method in upper case. -/
def upperMethod (method : Value) : Except Fault Value :=
  match method.asText?, method with
  | some s, _ => .ok (.text (Text.upper s))
  | none, .bytes bs => .ok (.bytes (Bytes.upper bs))
  | none, _ => .error .noAttribute

/-- The methods that only read. -/
def readingMethods : List String :=
  ["get", "head", "options"]

/-- How often a request of a method, in lower case, is sent at most. -/
def attemptsFor (s : Sender) (method : String) : Except Fault Nat :=
  if readingMethods.contains method then
    match s.attempts.asInt? with
    | some n => .ok n.toNat
    | none => .error .wrongType
  else .ok 1

/-- How long a response to a method, in lower case, may take unless the request says so. -/
def timeoutFor (s : Sender) (method : String) : Value :=
  s.timeout.unlessNull.getD (.int (if method = "post" || method = "delete" then 120 else 10))

/-- The fault after which nothing is tried again. -/
def lastFault (method : Value) (fault : Fault) : Fault :=
  match upperMethod method with
  | .ok _ => fault
  | .error other => other

/-- Sends a request, and again as often as is left when it fails without a response. -/
def sendWithin (s : Sender) (r : Request) :
    (left attempt : Nat) → Exchange → Except Fault Response × Exchange
  | left, attempt, e =>
    match e.send r with
    | (.ok response, e) => (.ok response, e)
    | (.error (.outside kind message), e) =>
      if !kind.isNetwork then (.error (.outside kind message), e)
      else
        match left with
        | 0 => (.error (lastFault r.method (.outside kind message)), e)
        | left + 1 =>
          match s.baseDelay.doubled attempt with
          | .error fault => (.error fault.fault, e)
          | .ok time =>
            match e.wait time with
            | .error fault => (.error fault, e)
            | .ok e => sendWithin s r left (attempt + 1) e
    | (.error fault, e) => (.error fault, e)

/-- Sends a request; a timeout that is given goes before the settings. -/
def request (s : Sender) (method : Value) (url : String) (timeout : Option Value)
    (headers : Option Headers) (e : Exchange) : Except Fault Response × Exchange :=
  match foldMethod method with
  | .error fault => (.error fault, e)
  | .ok folded =>
    match s.attemptsFor folded with
    | .error fault => (.error fault, e)
    | .ok n =>
      s.sendWithin ⟨s.session, method, url, timeout.getD (s.timeoutFor folded), headers⟩
        (n - 1) 0 e

/-- Closes the session, after which requests are sent without one. -/
def close (s : Sender) (e : Exchange) : Sender × Exchange :=
  match s.session with
  | some session => ({ s with session := none }, e.closeSession session)
  | none => (s, e)

/-- A response uses up a reply. -/
theorem replies_length_of_sendWithin {s : Sender} {r : Request} {left attempt : Nat}
    {e e' : Exchange} {response : Response}
    (h : s.sendWithin r left attempt e = (.ok response, e')) :
    e'.replies.length < e.replies.length := by
  induction left generalizing attempt e with
  | zero =>
    unfold sendWithin at h
    split at h
    · next hs =>
      cases h
      have := Exchange.replies_length_of_send hs
      omega
    · split at h <;> simp at h
    · simp at h
  | succ left ih =>
    unfold sendWithin at h
    split at h
    · next hs =>
      cases h
      have := Exchange.replies_length_of_send hs
      omega
    · next kind message mid hs =>
      split at h
      · simp at h
      · have hle : mid.replies.length ≤ e.replies.length := by
          simpa [hs] using Exchange.replies_length_send_le e r
        simp only at h
        split at h
        · simp at h
        · next hwait =>
          split at h
          · simp at h
          · next hpassed =>
            have := ih h
            rw [Exchange.replies_of_wait hpassed] at this
            omega
    · simp at h

/-- A response uses up a reply. -/
theorem replies_length_of_request {s : Sender} {method : Value} {url : String}
    {timeout : Option Value} {headers : Option Headers} {e e' : Exchange} {response : Response}
    (h : s.request method url timeout headers e = (.ok response, e')) :
    e'.replies.length < e.replies.length := by
  unfold request at h
  split at h
  · simp at h
  · split at h
    · simp at h
    · exact replies_length_of_sendWithin h

end Sender

end PagedTables
