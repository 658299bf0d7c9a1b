import PagedTables.Proofs.Service.Clients
import PagedTables.Proofs.Service.Fetching

/-!
# What passes through a session

A sender sends every request through the session that it has, or without one if it has none, and it
neither opens nor closes sessions. The same holds of a transport and of the fetches that a client
makes with it, whatever is answered and however often a request is sent again.
-/
namespace PagedTables

/-- The event is no matter of sessions, or a request that is sent through the given one. -/
def Event.IsVia (session : Option Session) : Event → Prop
  | request r => r.session = session
  | wait _ => True
  | askToken _ => True
  | openSession _ => False
  | closeSession _ => False

namespace Exchange

/-- From one moment to another everything that was sent went through a session. -/
structure Via (session : Option Session) (e e' : Exchange) : Prop where
  sessions : e'.sessions = e.sessions
  events : ∃ new, e'.events = e.events ++ new ∧ ∀ event ∈ new, event.IsVia session

section Via

variable {session : Option Session} {e e' e'' : Exchange}

theorem Via.of_silent (hsessions : e'.sessions = e.sessions) (hevents : e'.events = e.events) :
    e.Via session e' :=
  ⟨hsessions, [], by rw [hevents, List.append_nil], by simp⟩

theorem Via.refl (session : Option Session) (e : Exchange) : e.Via session e :=
  .of_silent rfl rfl

theorem Via.trans (h : e.Via session e') (h' : e'.Via session e'') : e.Via session e'' := by
  obtain ⟨new, hnew, hvia⟩ := h.events
  obtain ⟨later, hlater, hvia'⟩ := h'.events
  refine ⟨h'.sessions.trans h.sessions, new ++ later, ?_, ?_⟩
  · rw [hlater, hnew, List.append_assoc]
  · intro event hevent
    exact (List.mem_append.mp hevent).elim (hvia event) (hvia' event)

theorem via_record {event : Event} (h : event.IsVia session) (e : Exchange) :
    e.Via session (e.record event) :=
  ⟨rfl, [event], rfl, by simpa using h⟩

theorem via_send (e : Exchange) (r : Request) : e.Via r.session (e.send r).2 := by
  have hvia : (Event.request r).IsVia r.session := rfl
  have hrecord := via_record hvia e
  rw [send]
  split
  · exact hrecord
  · exact hrecord.trans (.of_silent rfl rfl)
  · exact hrecord.trans (.of_silent rfl rfl)

theorem Asks.via (h : e.Asks e') : e.Via session e' := by
  obtain ⟨scopes, hevents⟩ := h.events
  refine ⟨h.sessions, scopes.map Event.askToken, hevents, ?_⟩
  intro event hevent
  obtain ⟨scope, -, rfl⟩ := List.mem_map.mp hevent
  trivial

end Via

end Exchange

theorem Sender.via_sendWithin (s : Sender) (r : Request) (left attempt : Nat) (e : Exchange) :
    e.Via r.session (s.sendWithin r left attempt e).2 := by
  induction left using Nat.strongRecOn generalizing attempt e with
  | ind left ih =>
      obtain ⟨sent, e', hsend, -, -⟩ := e.send_eq r
      have hvia := e.via_send r
      rw [hsend] at hvia
      cases hlost : sent.isLost with
      | false => rwa [sendWithin_of_not_lost hsend hlost]
      | true =>
          rcases sendWithin_of_lost hsend hlost left attempt with
            ⟨fault, hfault⟩ | ⟨less, time, e'', rfl, hwait, hagain⟩
          · rw [hfault]
            exact hvia
          · rw [hagain]
            have hwaiting : (Event.wait time).IsVia r.session := trivial
            have hpassed := Exchange.via_record hwaiting e'
            rw [← (Exchange.wait_eq_ok_iff.mp hwait).2] at hpassed
            exact (hvia.trans hpassed).trans (ih less (Nat.lt_succ_self less) _ _)

theorem Sender.via_request (s : Sender) (method : Value) (url : String) (timeout : Option Value)
    (headers : Option Headers) (e : Exchange) :
    e.Via s.session (s.request method url timeout headers e).2 := by
  rw [request]
  split
  · exact .refl _ e
  · split
    · exact .refl _ e
    · next folded _ _ n _ =>
        exact s.via_sendWithin ⟨s.session, method, url, timeout.getD (s.timeoutFor folded), headers⟩
          (n - 1) 0 e

namespace Transport

theorem via_request (t : Transport) (method : Value) (url : String) (e : Exchange) :
    e.Via t.sender.session (t.request method url e).2 := by
  have hheaders : e.Via t.sender.session (t.headers e).2 := (t.asks_headers e).via
  rw [request]
  split
  · next headers mid hanswer =>
      rw [hanswer] at hheaders
      have hsent := t.sender.via_request method url none (some headers) mid
      rw [requestWith]
      split
      · next hresponse =>
          rw [hresponse] at hsent
          exact hheaders.trans hsent
      · next hfault =>
          rw [hfault] at hsent
          exact hheaders.trans hsent
  · next hanswer => rwa [hanswer] at hheaders

/-- A page is fetched through the session of the transport. -/
theorem via_fetchPage {ι : Type} (t : Transport) (decode : JsonObject → Except Fault ι)
    (table : Value) (target : Target) (e : Exchange) :
    e.Via t.sender.session (t.fetchPage decode table target e).2 := by
  rw [fetchPage]
  split
  · exact .refl _ e
  · next url _ =>
      have hsent := t.via_request (.text "get") url e
      split
      · next hresponse => rwa [hresponse] at hsent
      · next hfault => rwa [hfault] at hsent

end Transport

namespace Client

/-- The session that requests of a transport go through, if there is the transport. -/
def sessionOf (c : Client) (i : Nat) : Option Session :=
  c.transports[i]?.bind fun t => t.sender.session

/-- A page is fetched through the session of the transport that the client fetches it with. -/
theorem via_fetch {ι : Type} (c : Client) (i : Nat) (decode : JsonObject → Except Fault ι)
    (table : Value) (target : Target) (e : Exchange) :
    e.Via (c.sessionOf i) (c.fetch i decode table target e).2 := by
  rw [fetch, sessionOf]
  cases c.transports[i]? with
  | none => exact .refl _ e
  | some t => exact t.via_fetchPage decode table target e

end Client

end PagedTables
