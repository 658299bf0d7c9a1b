import PagedTables.Service.Config
import PagedTables.Service.Sleep

/-!
# Exchanges

What passes between a client and its surroundings. A request is answered by a response or fails
without one; a credential is asked for tokens; the clock is read; waits pass, or are refused;
sessions are opened and closed. The answers that are still to come are part of an exchange, and so
are the events in the order in which they happened.
-/
namespace PagedTables

/-- The headers of a request or a response. -/
abbrev Headers := List (String × Value)

/-- A response to a request. -/
structure Response where
  status : Int
  headers : Headers
  body : String

/-- What becomes of a request. -/
inductive Reply where
  | response (r : Response)
  | failure (kind : OutsideKind) (message : String)

/-- What becomes of asking a credential for a token. -/
inductive TokenReply where
  | token (text expiry : Value)
  | failure (kind : OutsideKind) (message : String)

/-- A session that keeps connections open, by its number. -/
abbrev Session := Nat

/-- A request as it is sent. -/
structure Request where
  /-- The session that it is sent through, if it is sent through one. -/
  session : Option Session
  method : Value
  url : String
  timeout : Value
  headers : Option Headers

/-- What has happened. -/
inductive Event where
  | request (r : Request)
  | wait (time : Value)
  | askToken (scope : Value)
  | openSession (s : Session)
  | closeSession (s : Session)

/-- A token that is kept for its scope. -/
structure Token where
  scope : Value
  text : Value
  expiry : Int

/-- An exchange with the surroundings. -/
structure Exchange where
  replies : List Reply
  tokenReplies : List TokenReply
  now : Value
  /-- The tokens that are kept, the latest first. -/
  tokens : List Token
  /-- The number of sessions that have been opened. -/
  sessions : Nat
  events : List Event
  /-- Whether a time can be waited for, as by `systemSleep`, and what goes wrong if it cannot. -/
  sleep : Value → Except Fault Unit

namespace Exchange

/-- Nothing has happened yet. -/
def start (replies : List Reply) (tokenReplies : List TokenReply) (now : Value)
    (sleep : Value → Except Fault Unit) : Exchange where
  replies := replies
  tokenReplies := tokenReplies
  now := now
  tokens := []
  sessions := 0
  events := []
  sleep := sleep

/-- One more event. -/
def record (e : Exchange) (event : Event) : Exchange :=
  { e with events := e.events ++ [event] }

/-- Sends a request once. -/
def send (e : Exchange) (r : Request) : Except Fault Response × Exchange :=
  let e := e.record (.request r)
  match e.replies with
  | [] => (.error .noAnswer, e)
  | .response response :: rest => (.ok response, { e with replies := rest })
  | .failure kind message :: rest => (.error (.outside kind message), { e with replies := rest })

/-- Lets a time pass. -/
def wait (e : Exchange) (time : Value) : Except Fault Exchange :=
  (e.sleep time).map fun _ => e.record (.wait time)

/-- Asks the credential for a token. -/
def askToken (e : Exchange) (scope : Value) : Except Fault (Value × Value) × Exchange :=
  let e := e.record (.askToken scope)
  match e.tokenReplies with
  | [] => (.error .noAnswer, e)
  | .token text expiry :: rest => (.ok (text, expiry), { e with tokenReplies := rest })
  | .failure kind message :: rest =>
    (.error (.outside kind message), { e with tokenReplies := rest })

/-- Opens a session. -/
def openSession (e : Exchange) : Session × Exchange :=
  (e.sessions, { e.record (.openSession e.sessions) with sessions := e.sessions + 1 })

/-- Closes a session. -/
def closeSession (e : Exchange) (s : Session) : Exchange :=
  e.record (.closeSession s)

/-- No time passes but what is recorded. -/
theorem wait_eq_ok_iff {e e' : Exchange} {time : Value} :
    e.wait time = .ok e' ↔ e.sleep time = .ok () ∧ e' = e.record (.wait time) := by
  unfold wait
  cases e.sleep time <;> simp [Except.map, eq_comm]

/-- Waits are no replies to requests. -/
theorem replies_of_wait {e e' : Exchange} {time : Value} (h : e.wait time = .ok e') :
    e'.replies = e.replies := by
  rw [(wait_eq_ok_iff.mp h).2]
  rfl

/-- Tokens are no replies to requests. -/
theorem replies_askToken (e : Exchange) (scope : Value) :
    (e.askToken scope).2.replies = e.replies := by
  unfold askToken
  dsimp only
  split <;> rfl

/-- A response uses up a reply. -/
theorem replies_length_of_send {e e' : Exchange} {r : Request} {response : Response}
    (h : e.send r = (.ok response, e')) : e'.replies.length + 1 = e.replies.length := by
  unfold send at h
  cases hr : (e.record (.request r)).replies with
  | nil => simp [hr] at h
  | cons reply rest =>
    have hlen : e.replies.length = rest.length + 1 := congrArg List.length hr
    cases reply with
    | response response' =>
      simp only [hr, Prod.mk.injEq] at h
      rw [← h.2, hlen]
    | failure kind message => simp [hr] at h

/-- Sending never adds replies. -/
theorem replies_length_send_le (e : Exchange) (r : Request) :
    (e.send r).2.replies.length ≤ e.replies.length := by
  unfold send
  cases hr : (e.record (.request r)).replies with
  | nil => simp [hr]
  | cons reply rest =>
    have hlen : e.replies.length = rest.length + 1 := congrArg List.length hr
    cases reply <;> simp [hr, hlen]

end Exchange

end PagedTables
