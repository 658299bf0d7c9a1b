import PagedTables.Proofs.Result
import PagedTables.Service.Sender

/-!
# Attempts to send a request

The requests that pass between two moments of an exchange, each with what became of it. Requests are
answered in the order in which they are sent, by the replies that were still to come at the first of
the moments.

A reading request is sent again and again until something else happens to it than a failure without
a response, or until there have been as many attempts as the settings allow.
-/
namespace PagedTables

/-- A request that was sent, with its reply; when no replies are left it has none. -/
structure Sent where
  request : Request
  reply : Option Reply

namespace Sent

/-- The request failed without a response, in a way after which it may be sent again. -/
def isLost (s : Sent) : Bool :=
  match s.reply with
  | some (.failure kind _) => kind.isNetwork
  | _ => false

/-- The response to the request. -/
def response? (s : Sent) : Option Response :=
  match s.reply with
  | some (.response r) => some r
  | _ => none

/-- What sending the request came to. -/
def result (s : Sent) : Except Fault Response :=
  match s.reply with
  | some (.response r) => .ok r
  | some (.failure kind message) => .error (.outside kind message)
  | none => .error .noAnswer

theorem result_eq_ok_iff {s : Sent} {r : Response} : s.result = .ok r ↔ s.response? = some r := by
  rcases s with ⟨request, _ | _ | _⟩ <;> simp [result, response?]

end Sent

/-- The requests among events. -/
def requestsOf (events : List Event) : List Request :=
  events.filterMap fun event => match event with
    | .request r => some r
    | _ => none

namespace Exchange

/-- What was sent from one moment to another. -/
structure Sends (e e' : Exchange) (sent : List Sent) : Prop where
  requests : requestsOf e'.events = requestsOf e.events ++ sent.map Sent.request
  replies : ∀ (i : Nat) (s : Sent), sent[i]? = some s → s.reply = e.replies[i]?
  left : e'.replies = e.replies.drop sent.length

section Sends

variable {e e' e'' : Exchange} {sent later : List Sent}

theorem Sends.of_silent
    (hrequests : requestsOf e'.events = requestsOf e.events) (hreplies : e'.replies = e.replies) :
    e.Sends e' [] where
  requests := by simp [hrequests]
  replies := by simp
  left := hreplies

theorem Sends.refl (e : Exchange) : e.Sends e [] :=
  .of_silent rfl rfl

theorem Sends.append (h : e.Sends e' sent) (h' : e'.Sends e'' later) :
    e.Sends e'' (sent ++ later) where
  requests := by rw [h'.requests, h.requests, List.map_append, List.append_assoc]
  replies := by
    intro i s hs
    by_cases hi : i < sent.length
    · rw [List.getElem?_append_left hi] at hs
      exact h.replies i s hs
    · have hlater : sent.length ≤ i := Nat.le_of_not_lt hi
      rw [List.getElem?_append_right hlater] at hs
      rw [h'.replies _ s hs, h.left, List.getElem?_drop, Nat.add_sub_cancel' hlater]
  left := by rw [h'.left, h.left, List.drop_drop, List.length_append]

theorem requestsOf_record (e : Exchange) (event : Event) :
    requestsOf (e.record event).events = requestsOf e.events ++ requestsOf [event] :=
  List.filterMap_append

theorem sends_of_wait {time : Value} (h : e.wait time = .ok e') : e.Sends e' [] := by
  rw [(wait_eq_ok_iff.mp h).2]
  exact .of_silent (by rw [requestsOf_record]; exact List.append_nil _) rfl

/-- A request that is sent is answered by the first reply that is left. -/
theorem send_eq (e : Exchange) (r : Request) :
    ∃ (s : Sent) (e' : Exchange), e.send r = (s.result, e') ∧ e.Sends e' [s] ∧ s.request = r := by
  have hrequests : requestsOf (e.record (.request r)).events = requestsOf e.events ++ [r] :=
    requestsOf_record e (.request r)
  have hfirst (s : Sent) (hs : s.reply = e.replies[0]?) (i : Nat) (s' : Sent)
      (hs' : [s][i]? = some s') : s'.reply = e.replies[i]? := by
    cases i with
    | zero =>
        cases hs'
        exact hs
    | succ i => cases hs'
  cases hreplies : e.replies with
  | nil =>
      refine ⟨⟨r, none⟩, e.record (.request r), ?_, ⟨hrequests, hfirst _ ?_, ?_⟩, rfl⟩
      · simp [send, record, hreplies, Sent.result]
      · simp [hreplies]
      · simp [record, hreplies]
  | cons reply rest =>
      refine ⟨⟨r, some reply⟩, { e.record (.request r) with replies := rest }, ?_,
        ⟨hrequests, hfirst _ ?_, ?_⟩, rfl⟩
      · cases reply <;> simp [send, record, hreplies, Sent.result]
      · simp [hreplies]
      · simp [hreplies]

end Sends

end Exchange

/-! ## Attempts -/

/-- The same request, sent again and again while it is lost, but not more often than a limit. -/
structure Attempts (r : Request) (limit : Nat) (sent : List Sent) : Prop where
  same : ∀ s ∈ sent, s.request = r
  within : sent.length ≤ limit
  again : ∀ s ∈ sent.dropLast, s.isLost = true

theorem Attempts.nil (r : Request) (limit : Nat) : Attempts r limit [] :=
  ⟨by simp, Nat.zero_le limit, by simp⟩

theorem Attempts.single {r : Request} {s : Sent} (hs : s.request = r) (limit : Nat) :
    Attempts r (limit + 1) [s] :=
  ⟨by simpa using hs, by simp, by simp⟩

theorem Attempts.cons
    {r : Request} {limit : Nat} {s : Sent} {sent : List Sent} (hs : s.request = r)
    (hlost : s.isLost = true) (h : Attempts r limit sent) : Attempts r (limit + 1) (s :: sent) where
  same := List.forall_mem_cons.mpr ⟨hs, h.same⟩
  within := Nat.succ_le_succ h.within
  again := by
    cases sent with
    | nil => simp
    | cons next rest =>
        rw [List.dropLast_cons_of_ne_nil (List.cons_ne_nil next rest)]
        exact List.forall_mem_cons.mpr ⟨hlost, h.again⟩

/-- The response to the last one of some requests. -/
def lastResponse? (sent : List Sent) : Option Response :=
  sent.getLast?.bind Sent.response?

theorem Sent.response?_of_isLost {s : Sent} (h : s.isLost = true) : s.response? = none := by
  rcases s with ⟨request, _ | _ | _⟩
  · rfl
  · cases h
  · rfl

theorem lastResponse?_cons {s : Sent} {sent : List Sent} (hne : sent ≠ []) :
    lastResponse? (s :: sent) = lastResponse? sent := by
  cases sent with
  | nil => exact absurd rfl hne
  | cons next rest => rw [lastResponse?, List.getLast?_cons_cons, lastResponse?]

namespace Sender

section

variable {sender : Sender} {r : Request} {s : Sent} {e e' : Exchange}

/-- Nothing is sent again after anything but a loss. -/
theorem sendWithin_of_not_lost (hsend : e.send r = (s.result, e')) (hlost : s.isLost = false)
    (left attempt : Nat) : sender.sendWithin r left attempt e = (s.result, e') := by
  rcases s with ⟨request, _ | response | ⟨kind, message⟩⟩
  · cases left <;> simp [sendWithin, hsend, Sent.result]
  · cases left <;> simp [sendWithin, hsend, Sent.result]
  · have hkind : kind.isNetwork = false := hlost
    cases left <;> simp [sendWithin, hsend, Sent.result, hkind]

/-- After a loss the request is sent again if that is allowed, unless there is no time to wait. -/
theorem sendWithin_of_lost (hsend : e.send r = (s.result, e')) (hlost : s.isLost = true)
    (left attempt : Nat) :
    (∃ fault, sender.sendWithin r left attempt e = (.error fault, e')) ∨
      ∃ less time e'', left = less + 1 ∧ e'.wait time = .ok e'' ∧
        sender.sendWithin r left attempt e = sender.sendWithin r less (attempt + 1) e'' := by
  rcases s with ⟨request, _ | response | ⟨kind, message⟩⟩
  · cases hlost
  · cases hlost
  · have hkind : kind.isNetwork = true := hlost
    cases left with
    | zero =>
        refine .inl ⟨lastFault r.method (.outside kind message), ?_⟩
        simp [sendWithin, hsend, Sent.result, hkind]
    | succ less =>
        cases htime : sender.baseDelay.doubled attempt with
        | error fault =>
            exact .inl ⟨fault.fault, by simp [sendWithin, hsend, Sent.result, hkind, htime]⟩
        | ok time =>
            cases hwait : e'.wait time with
            | error fault =>
                exact .inl ⟨fault, by simp [sendWithin, hsend, Sent.result, hkind, htime, hwait]⟩
            | ok e'' =>
                refine .inr ⟨less, time, e'', rfl, hwait, ?_⟩
                rw [sendWithin, hsend]
                simp only [Sent.result, hkind, htime, hwait, Bool.not_true, Bool.false_eq_true,
                  if_false]

end

/-- A sender makes attempts, and comes to the response to the last one if there is one. -/
theorem sends_sendWithin (sender : Sender) (r : Request) (left attempt : Nat) (e : Exchange) :
    ∃ sent, e.Sends (sender.sendWithin r left attempt e).2 sent ∧
      Attempts r (left + 1) sent ∧ sent ≠ [] ∧
      ∀ response, (sender.sendWithin r left attempt e).1 = .ok response ↔
        lastResponse? sent = some response := by
  -- The attempts that are left go down with each loss; what is waited for in between sends nothing.
  induction left using Nat.strongRecOn generalizing attempt e with
  | ind left ih =>
      obtain ⟨s, e', hsend, hsends, hs⟩ := e.send_eq r
      cases hlost : s.isLost with
      | false =>
          rw [sendWithin_of_not_lost hsend hlost]
          exact ⟨[s], hsends, .single hs left, by simp, fun response => s.result_eq_ok_iff⟩
      | true =>
          obtain ⟨fault, hend⟩ | ⟨less, time, e'', rfl, hwait, hagain⟩ :=
            sender.sendWithin_of_lost hsend hlost left attempt
          · rw [hend]
            refine ⟨[s], hsends, .single hs left, by simp, fun response => ?_⟩
            simp [lastResponse?, s.response?_of_isLost hlost]
          · obtain ⟨sent, hlater, hattempts, hne, hresponse⟩ :=
              ih less (Nat.lt_succ_self less) (attempt + 1) e''
            rw [hagain]
            refine ⟨s :: sent, ?_, .cons hs hlost hattempts, by simp, fun response => ?_⟩
            · exact (hsends.append (Exchange.sends_of_wait hwait)).append hlater
            · rw [hresponse, lastResponse?_cons hne]

/-! ## Limits -/

/-- The number of attempts that a setting allows; one that is no integer allows no second one. -/
def attemptBound (setting : Value) : Nat :=
  match setting with
  | .null => 5
  | v => v.asInt?.elim 1 fun n => max 1 n.toNat

theorem ordering_of_asInt? {v : Value} {m : Int} (h : v.asInt? = some m) :
    v.ordering 1 = .ok (some (compare m 1)) := by
  have hwhole : v.wholeNumber? = some m := by
    cases v <;> first | exact h | cases h
  simp only [Value.ordering, hwhole]

/-- A setting is a limit itself if it is greater than 1. -/
theorem attemptLimit_of_ne_null {setting limit : Value} (hnull : setting ≠ .null)
    (h : attemptLimit setting = .ok limit) :
    ∃ order, setting.ordering 1 = .ok order ∧
      limit = if order = some .gt then setting else .int 1 := by
  cases horder : setting.ordering 1 with
  | error fault =>
      have hfault : attemptLimit setting = .error fault.fault := by
        cases setting <;> first | exact absurd rfl hnull | simp [attemptLimit, horder]
      rw [hfault] at h
      cases h
  | ok order =>
      have hlimit : attemptLimit setting = .ok (if order = some .gt then setting else .int 1) := by
        cases setting <;> first | exact absurd rfl hnull | simp [attemptLimit, horder]
      rw [hlimit] at h
      exact ⟨order, rfl, (Except.ok.inj h).symm⟩

/-- A limit that can be counted allows as many attempts as the setting that it comes from. -/
theorem attemptLimit_eq {setting limit : Value} (h : attemptLimit setting = .ok limit) {n : Int}
    (hn : limit.asInt? = some n) : n.toNat - 1 + 1 = attemptBound setting := by
  by_cases hnull : setting = .null
  · subst hnull
    cases h
    cases hn
    rfl
  · have hbound : attemptBound setting = setting.asInt?.elim 1 fun n => max 1 n.toNat := by
      cases setting <;> first | rfl | exact absurd rfl hnull
    obtain ⟨order, horder, rfl⟩ := attemptLimit_of_ne_null hnull h
    rw [hbound]
    by_cases hgreater : order = some .gt
    · rw [if_pos hgreater] at hn
      rw [ordering_of_asInt? hn] at horder
      have hone : 1 < n := by
        cases horder
        simpa [Int.compare_eq_gt] using hgreater
      rw [hn, Option.elim_some]
      omega
    · rw [if_neg hgreater] at hn
      cases hn
      cases hm : setting.asInt? with
      | none => rfl
      | some m =>
          rw [ordering_of_asInt? hm] at horder
          have hone : m ≤ 1 := by
            cases horder
            simpa [Int.compare_eq_gt] using hgreater
          have htoNat : (1 : Int).toNat = 1 := rfl
          rw [Option.elim_some]
          omega

/--
A reading request is sent no more often than the settings allow, and not at all if they name no
number of attempts.
-/
theorem sends_request_get
    {sender : Sender} {setting : Value} (hlimit : attemptLimit setting = .ok sender.attempts)
    (url : String) (headers : Option Headers) (e : Exchange) :
    ∃ r sent, r.method = .text "get" ∧ r.url = url ∧
      e.Sends (sender.request (.text "get") url none headers e).2 sent ∧
      Attempts r (attemptBound setting) sent ∧
      (sent = [] → sender.attempts.asInt? = none) ∧
      ∀ response, (sender.request (.text "get") url none headers e).1 = .ok response ↔
        lastResponse? sent = some response := by
  have hfold : foldMethod (.text "get") = .ok "get" := rfl
  have hreading : readingMethods.contains "get" = true := rfl
  rw [request, hfold]
  simp only [attemptsFor, hreading, if_true]
  let r : Request := ⟨sender.session, .text "get", url, sender.timeoutFor "get", headers⟩
  cases hn : sender.attempts.asInt? with
  | none =>
      exact ⟨r, [], rfl, rfl, .refl e, .nil r _, fun _ => rfl, by simp [lastResponse?]⟩
  | some n =>
      obtain ⟨sent, hsends, hattempts, hne, hresponse⟩ :=
        sender.sends_sendWithin r (n.toNat - 1) 0 e
      rw [attemptLimit_eq hlimit hn] at hattempts
      exact ⟨r, sent, rfl, rfl, hsends, hattempts, fun h => absurd h hne, hresponse⟩

end Sender

end PagedTables
