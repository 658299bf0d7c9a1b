import PagedTables.Proofs.Service.Sessions

/-!
# The session inside

Between entering a client and closing it, its session is lent to the transport that is in use. A
transport made inside has it; a transport that was made before, and was not given up by closing, has
none and stays in use. So what counts is whether there was a transport when the client was entered.

All counts and all streams that are obtained inside go by that one transport, however they are mixed
with each other and with the streams of earlier times.
-/
namespace PagedTables

/-! ## Steps inside -/

namespace ClientStep

def closes : ClientStep → Bool
  | leave => true
  | close => true
  | _ => false

/-- The step is a query, for which a transport is needed. -/
def queries : ClientStep → Bool
  | execute _ _ => true
  | run _ => true
  | get _ _ _ => true
  | count _ _ => true
  | _ => false

/-- The place of the stream that the step reads. -/
def stream? (d : Desk) : ClientStep → Option Nat
  | advance i _ => d.traversals[i]?.map Prod.fst
  | read i _ _ => some i
  | _ => none

/-- The step is a count, or it reads a stream that is not among the first ones. -/
def servesSince (first : Nat) (d : Desk) : ClientStep → Bool
  | count _ _ => true
  | step => (step.stream? d).any (first ≤ ·)

end ClientStep

/-- Whether there was a query since the client was last closed, after more steps. -/
def queriedAfter (queried : Bool) : List ClientStep → Bool
  | [] => queried
  | step :: rest => queriedAfter (!step.closes && (queried || step.queries)) rest

/-- The requests of the counts that are made and of the streams that are read, but the first. -/
def Desk.requestsSince (first : Nat) : Desk → List ClientStep → List Request
  | _, [] => []
  | d, step :: rest =>
    (if step.servesSince first d then
      requestsOf ((step.perform d).exchange.events.drop d.exchange.events.length)
    else []) ++ Desk.requestsSince first (step.perform d) rest

/-! ## The transport in use -/

namespace Client

/-- The client has a session, and the transport that is in use or will be made has the lent one. -/
structure Lends (c : Client) (s : Session) (lent : Option Session) : Prop where
  session : c.session = some s
  inUse : ∀ i, c.current = some i → c.sessionOf i = lent
  idle : c.current = none → lent = some s

namespace Lends

variable {c c' : Client} {s : Session} {lent : Option Session} {i : Nat}

theorem transport (h : c.Lends s lent) (htransport : c.transport = .ok (i, c')) :
    c'.Lends s lent ∧ c'.current = some i ∧ ∀ j, c.current = some j → c'.current = some j := by
  rw [Client.transport] at htransport
  cases hcurrent : c.current with
  | some j =>
      rw [hcurrent] at htransport
      cases htransport
      exact ⟨h, hcurrent, by simp [hcurrent]⟩
  | none =>
      rw [hcurrent] at htransport
      obtain ⟨t, ht, hmade⟩ := map_eq_ok.mp htransport
      cases hmade
      have hlent : t.sender.session = lent := by
        rw [Transport.session_make ht, h.session, h.idle hcurrent]
      refine ⟨⟨h.session, ?_, by simp⟩, rfl, by simp⟩
      rintro j hj
      cases hj
      simpa [sessionOf] using hlent

theorem obtain {answer : Except Fault Results × Client}
    (h : c.Lends s lent) (hanswer : c.Obtains answer) :
    answer.2.Lends s lent ∧ (∀ j, c.current = some j → answer.2.current = some j) ∧
      ∀ results, answer.1 = .ok results → answer.2.current = some results.transport := by
  rcases hanswer with ⟨hsame, hnone⟩ | ⟨i, htransport, hplace⟩
  · rw [hsame]
    exact ⟨h, fun j hj => hj, fun results hresults => absurd hresults (hnone results)⟩
  · obtain ⟨hlends, hcurrent, hkept⟩ := h.transport htransport
    refine ⟨hlends, hkept, fun results hresults => ?_⟩
    rw [hplace results hresults]
    exact hcurrent

theorem count (h : c.Lends s lent) (table : Value) (q : Option TableQuery) (e : Exchange) :
    (c.count table q e).2.1.Lends s lent ∧
      (∀ j, c.current = some j → (c.count table q e).2.1.current = some j) ∧
      e.Via lent (c.count table q e).2.2 := by
  rcases c.count_cases table q e with hsame | ⟨i, c', htransport, hclient, hfetch⟩
  · rw [hsame]
    exact ⟨h, fun j hj => hj, .refl _ e⟩
  · obtain ⟨hlends, hcurrent, hkept⟩ := h.transport htransport
    rw [hclient]
    refine ⟨hlends, hkept, ?_⟩
    rcases hfetch with hsilent | ⟨target, hfetched⟩
    · rw [hsilent]
      exact .refl _ e
    · rw [hfetched, ← hlends.inUse i hcurrent]
      exact c'.via_fetch i Decoder.plain table target e

end Lends

end Client

/-- Streams that are not among the first ones go by the transport that is in use. -/
structure Desk.Lends (first : Nat) (d : Desk) (s : Session) (lent : Option Session) : Prop where
  client : d.client.Lends s lent
  streams : ∀ i results stream, first ≤ i → d.streams[i]? = some (results, stream) →
    d.client.current = some results.transport

namespace Desk.Lends

variable {first : Nat} {d : Desk} {s : Session} {lent : Option Session}

theorem obtain {answer : Except Fault Results × Client}
    (h : d.Lends first s lent) (hanswer : d.client.Obtains answer) :
    (d.obtain answer).Lends first s lent := by
  obtain ⟨hlends, hkept, hown⟩ := h.client.obtain hanswer
  refine ⟨hlends, fun i results stream hi hstream => ?_⟩
  change (d.streams ++ _)[i]? = _ at hstream
  by_cases hplace : i < d.streams.length
  · rw [List.getElem?_append_left hplace] at hstream
    exact hkept _ (h.streams i results stream hi hstream)
  · -- A new stream goes by the transport that it was obtained with, which is in use now.
    rw [List.getElem?_append_right (Nat.le_of_not_lt hplace)] at hstream
    have hmem := List.mem_of_getElem? hstream
    obtain ⟨given, hgiven, hpair⟩ := List.mem_map.mp hmem
    cases hpair
    rcases answer with ⟨fault | results', c'⟩
    · cases hgiven
    · cases List.mem_singleton.mp hgiven
      exact hown results rfl

theorem withStream {i : Nat} {results : Results} {stream : Stream Int Item}
    (h : d.Lends first s lent) (hstream : d.streams[i]? = some (results, stream))
    (scene : Scene Exchange Int Item) : (d.withStream i results scene).Lends first s lent := by
  refine ⟨h.client, fun j results' stream' hj hstream' => ?_⟩
  change (d.streams.set i _)[j]? = _ at hstream'
  by_cases hplace : i = j
  · subst hplace
    rw [List.getElem?_set_self (List.getElem?_eq_some_iff.mp hstream).1] at hstream'
    cases hstream'
    exact h.streams i results stream hj hstream
  · rw [List.getElem?_set_ne hplace] at hstream'
    exact h.streams j results' stream' hj hstream'

/-- A stream that is not among the first ones is read through the lent session. -/
theorem sessionOf {i : Nat} {results : Results} {stream : Stream Int Item}
    (h : d.Lends first s lent) (hi : first ≤ i) (hstream : d.streams[i]? = some (results, stream)) :
    d.client.sessionOf results.transport = lent :=
  h.client.inUse _ (h.streams i results stream hi hstream)

end Desk.Lends

/-- As long as the client is not closed, no step changes what is lent. -/
theorem ClientStep.lends_perform
    {first : Nat} {d : Desk} {s : Session} {lent : Option Session} (h : d.Lends first s lent)
    {step : ClientStep} (hopen : step.closes = false) :
    (step.perform d).Lends first s lent := by
  cases step with
  | enter =>
      -- There is a session already, so that nothing is opened.
      have hsame : d.client.enter d.exchange = (d.client, d.exchange) := by
        rw [Client.enter, h.client.session]
      rw [perform, hsame]
      exact h
  | leave => cases hopen
  | close => cases hopen
  | execute table q => exact h.obtain (d.client.obtains_execute table q)
  | run q => exact h.obtain (d.client.obtains_run q)
  | get table query row => exact h.obtain (d.client.obtains_get table query row)
  | count table q =>
      obtain ⟨hlends, hkept, -⟩ := h.client.count table q d.exchange
      exact ⟨hlends, fun i results stream hi hstream =>
        hkept _ (h.streams i results stream hi hstream)⟩
  | clock now => exact ⟨h.client, h.streams⟩
  | traverse i stride => exact ⟨h.client, h.streams⟩
  | advance i cancelled =>
      rw [perform]
      split
      · exact h
      · split
        · exact h
        · next hstream =>
            have hread (scene : Scene Exchange Int Item) := h.withStream hstream scene
            exact ⟨h.client, (hread _).streams⟩
  | read i cancelled reading =>
      rw [perform]
      split
      · exact h
      · next hstream => exact h.withStream hstream _

theorem Desk.lends_run
    {first : Nat} {d : Desk} {s : Session} {lent : Option Session} (h : d.Lends first s lent)
    {steps : List ClientStep} (hopen : ∀ step ∈ steps, step.closes = false) :
    (d.run steps).Lends first s lent := by
  induction steps generalizing d with
  | nil => exact h
  | cons step rest ih =>
      obtain ⟨hstep, hrest⟩ := List.forall_mem_cons.mp hopen
      exact ih (step.lends_perform h hstep) hrest

theorem ClientStep.via_perform
    {first : Nat} {d : Desk} {s : Session} {lent : Option Session} (h : d.Lends first s lent)
    {step : ClientStep} (hserves : step.servesSince first d = true) :
    d.exchange.Via lent (step.perform d).exchange := by
  cases step with
  | count table q => exact (h.client.count table q d.exchange).2.2
  | advance i cancelled =>
      rw [perform]
      split
      · exact .refl _ _
      · next j t htraversal =>
          have hj : first ≤ j := by simpa [servesSince, stream?, htraversal] using hserves
          split
          · exact .refl _ _
          · next results stream hstream =>
              rw [← h.sessionOf hj hstream]
              exact t.kept_next (.refl _) .trans (d.client.via_source results) cancelled
                ⟨stream, d.exchange⟩
  | read i cancelled reading =>
      have hi : first ≤ i := by simpa [servesSince, stream?] using hserves
      rw [perform]
      split
      · exact .refl _ _
      · next results stream hstream =>
          rw [← h.sessionOf hi hstream]
          exact reading.kept_perform (.refl _) .trans (d.client.via_source results) cancelled
            ⟨stream, d.exchange⟩
  | _ => cases hserves

theorem Exchange.Via.session_of_mem
    {session : Option Session} {e e' : Exchange} (h : e.Via session e') {r : Request}
    (hr : r ∈ requestsOf (e'.events.drop e.events.length)) : r.session = session := by
  obtain ⟨new, hnew, hvia⟩ := h.events
  rw [hnew, List.drop_left, requestsOf] at hr
  obtain ⟨event, hevent, hrequest⟩ := List.mem_filterMap.mp hr
  cases event with
  | request r' =>
      cases hrequest
      exact hvia _ hevent
  | _ => cases hrequest

theorem Desk.session_of_mem_requestsSince
    {first : Nat} {d : Desk} {s : Session} {lent : Option Session} (h : d.Lends first s lent)
    {steps : List ClientStep} (hopen : ∀ step ∈ steps, step.closes = false) {r : Request}
    (hr : r ∈ d.requestsSince first steps) : r.session = lent := by
  induction steps generalizing d with
  | nil => cases hr
  | cons step rest ih =>
      obtain ⟨hstep, hrest⟩ := List.forall_mem_cons.mp hopen
      rw [requestsSince] at hr
      rcases List.mem_append.mp hr with hr | hr
      · split at hr
        · next hserves => exact (step.via_perform h hserves).session_of_mem hr
        · cases hr
      · exact ih (step.lends_perform h hstep) hrest hr

/-! ## Before the client is entered -/

theorem Client.current_close (c : Client) (e : Exchange) : (c.close e).1.current = none := by
  have hfirst : (c.closeTransport e).1.current = none := by
    rw [closeTransport]
    split <;> rfl
  rw [close]
  simpa [closeSession_eq] using hfirst

/-- Only a query makes a transport. -/
theorem ClientStep.current_perform
    {d : Desk} (h : d.client.current = none) {step : ClientStep} (hquery : step.queries = false) :
    (step.perform d).client.current = none := by
  cases step with
  | enter =>
      rw [perform, Client.enter]
      split <;> exact h
  | leave => exact d.client.current_close d.exchange
  | close => exact d.client.current_close d.exchange
  | clock now => exact h
  | traverse i stride => exact h
  | advance i cancelled =>
      rw [client_advance]
      exact h
  | read i cancelled reading =>
      rw [client_read]
      exact h
  | _ => cases hquery

theorem Desk.current_run
    {d : Desk} {queried : Bool} (h : queried = false → d.client.current = none)
    {steps : List ClientStep} (hqueried : queriedAfter queried steps = false) :
    (d.run steps).client.current = none := by
  induction steps generalizing d queried with
  | nil => exact h hqueried
  | cons step rest ih =>
      refine ih (fun hnot => ?_) hqueried
      cases hcloses : step.closes with
      | true =>
          cases step with
          | leave => exact d.client.current_close d.exchange
          | close => exact d.client.current_close d.exchange
          | _ => cases hcloses
      | false =>
          rw [hcloses, Bool.not_false, Bool.true_and, Bool.or_eq_false_iff] at hnot
          exact step.current_perform (h hnot.1) hnot.2

/-! ## Inside -/

/--
Once a client that has no session is entered, it has a new one until it is closed. The counts and
the streams that are obtained in the meantime go through that session, in whatever order the steps
come, unless a transport was in use already when the client was entered: then they go through none.
There is none in use if there was no query since the client was last closed.
-/
theorem Desk.sessions_inside
    {endpoint : Value} {config : Config} {usesTokens : Bool} {c : Client}
    (hmake : Client.make endpoint config usesTokens = .ok c) (replies : List Reply)
    (tokenReplies : List TokenReply) (now : Value) (sleep : Value → Except Fault Unit)
    (before : List ClientStep) {d : Desk}
    (hd : d = (Desk.start c (.start replies tokenReplies now sleep)).run before)
    (hnone : d.client.session = none) (inside : List ClientStep)
    (hinside : ∀ step ∈ inside, step.closes = false) :
    ∃ s, (ClientStep.enter.perform d).exchange.events = d.exchange.events ++ [.openSession s] ∧
      ((ClientStep.enter.perform d).run inside).client.session = some s ∧
      (∀ r ∈ (ClientStep.enter.perform d).requestsSince d.streams.length inside,
        r.session = if d.client.current = none then some s else none) ∧
      (queriedAfter false before = false → d.client.current = none) := by
  have hholds : d.client.Holds d.exchange :=
    hd ▸ Desk.holds_run (Client.holds_make hmake replies tokenReplies now sleep) before
  have henter : d.client.enter d.exchange = ({ d.client with session := some d.exchange.sessions },
      d.exchange.openSession.2) := by
    rw [Client.enter, hnone]
    rfl
  have hlends : (ClientStep.enter.perform d).Lends d.streams.length d.exchange.sessions
      (if d.client.current = none then some d.exchange.sessions else none) := by
    rw [ClientStep.perform, henter]
    refine ⟨⟨rfl, fun i hi => ?_, fun hidle => if_pos hidle⟩, fun i results stream hi hstream => ?_⟩
    · -- A transport that is in use has no session, as the client itself has none.
      have hcurrent : d.client.current = some i := hi
      rw [if_neg (by simp [hcurrent]), Option.eq_none_iff_forall_ne_some]
      intro s hs
      have hsession := (hholds.lent i s hs).2
      rw [hnone] at hsession
      cases hsession
    · have hplace := (List.getElem?_eq_some_iff.mp hstream).1
      exact absurd hplace (Nat.not_lt.mpr hi)
  refine ⟨d.exchange.sessions, ?_, ?_, ?_, ?_⟩
  · rw [ClientStep.perform, henter]
    rfl
  · exact (Desk.lends_run hlends hinside).client.session
  · exact fun r hr => Desk.session_of_mem_requestsSince hlends hinside hr
  · intro hqueried
    have hidle : false = false →
        (Desk.start c (.start replies tokenReplies now sleep)).client.current = none := by
      intro _
      obtain ⟨address, -, hmade⟩ := bind_eq_ok.mp hmake
      cases hmade
      rfl
    rw [hd]
    exact Desk.current_run hidle hqueried

namespace Desk

/-- A client that has counted before, has been closed, and has an answer to come. -/
def closedDesk : Desk :=
  (start idleClient (.start twoPages [] (.int 0) systemSleep)).run [.count (.text "t") none, .close]

theorem sessions_inside_closedDesk :
    Client.make (.text "https://ds.example.com") .default false = .ok idleClient ∧
      closedDesk.client.session = none ∧
      ((ClientStep.enter.perform closedDesk).requestsSince closedDesk.streams.length
        [.get (.text "t") .null .untyped, .traverse 0 .byPage, .advance 0 false]).length = 1 ∧
      ∀ r ∈ (ClientStep.enter.perform closedDesk).requestsSince closedDesk.streams.length
        [.get (.text "t") .null .untyped, .traverse 0 .byPage, .advance 0 false],
        r.session = some 0 := by
  have hmake : Client.make (.text "https://ds.example.com") .default false = .ok idleClient := rfl
  have hnone : closedDesk.client.session = none := by decide +kernel
  have hsent : ((ClientStep.enter.perform closedDesk).requestsSince closedDesk.streams.length
      [.get (.text "t") .null .untyped, .traverse 0 .byPage, .advance 0 false]).length = 1 := by
    decide +kernel
  obtain ⟨s, -, hsession, hthrough, hcurrent⟩ := sessions_inside hmake twoPages [] (.int 0)
    systemSleep
    [.count (.text "t") none, .close] (d := closedDesk) rfl hnone
    [.get (.text "t") .null .untyped, .traverse 0 .byPage, .advance 0 false] (by decide)
  have hfirst : ((ClientStep.enter.perform closedDesk).run
      [.get (.text "t") .null .untyped, .traverse 0 .byPage, .advance 0 false]).client.session =
        some 0 := by decide +kernel
  cases hfirst.symm.trans hsession
  refine ⟨hmake, hnone, hsent, fun r hr => ?_⟩
  rw [hthrough r hr, if_pos (hcurrent rfl)]

/-- A client that has counted before, and has an answer to come. -/
def countedDesk : Desk :=
  (start idleClient (.start twoPages [] (.int 0) systemSleep)).run [.count (.text "t") none]

/-- A client that was used before it was entered goes on without its session. -/
theorem sessions_inside_countedDesk :
    countedDesk.client.session = none ∧
      (ClientStep.enter.perform countedDesk).client.session = some 0 ∧
      ((ClientStep.enter.perform countedDesk).requestsSince countedDesk.streams.length
        [.count (.text "t") none]).map Request.session = [none] := by
  decide +kernel

end Desk

end PagedTables
