import PagedTables.Proofs.Service.Desk

/-!
# The sessions of a client

A client opens a session when it is entered, hands it to the transports that it makes from then on,
and closes it when it is closed. Streams may go on with their transports long after.

What carries everything is who holds a session. The only open session is the one of the client, and
a transport with a session is the one in use and has the session of the client. Closing takes the
session away from both, so that nobody is left who could send a request through it.
-/
namespace PagedTables

/-- After some events, a session has been opened and not been closed since. -/
def IsOpenAfter (events : List Event) (s : Session) : Prop :=
  ∃ before after, events = before ++ .openSession s :: after ∧ .closeSession s ∉ after

/-- Sessions are used as they should be, at any time in a course of events. -/
structure Orderly (events : List Event) : Prop where
  /-- A session through which a request is sent is open at that moment. -/
  sent : ∀ before r after, events = before ++ .request r :: after →
    ∀ s, r.session = some s → IsOpenAfter before s
  /-- There is at most one open session at a time. -/
  single : ∀ before after, events = before ++ after →
    ∀ s s', IsOpenAfter before s → IsOpenAfter before s' → s = s'
  /-- A session that is opened is a new one. -/
  fresh : ∀ before s after, events = before ++ .openSession s :: after → .openSession s ∉ before

/-! ## One more event -/

section Events

variable {events new : List Event} {event : Event} {session : Option Session}

/-- An element of a longer list is the new one at the end, or one of those before it. -/
theorem concat_eq_append_cons_iff {α : Type} {as before after : List α} {a x : α} :
    as ++ [a] = before ++ x :: after ↔
      (before = as ∧ x = a ∧ after = []) ∨
        ∃ rest, after = rest ++ [a] ∧ as = before ++ x :: rest := by
  constructor
  · intro h
    rcases List.eq_nil_or_concat after with rfl | ⟨rest, last, rfl⟩
    · obtain ⟨has, hx⟩ := List.append_inj' h rfl
      exact .inl ⟨has.symm, (List.singleton_inj.mp hx).symm, rfl⟩
    · have h : as ++ [a] = (before ++ x :: rest) ++ [last] := by simpa using h
      obtain ⟨has, hlast⟩ := List.append_inj' h rfl
      exact .inr ⟨rest, by rw [List.concat_eq_append, hlast], has⟩
  · rintro (⟨rfl, rfl, rfl⟩ | ⟨rest, rfl, rfl⟩)
    · rfl
    · simp

theorem not_isOpenAfter_nil (s : Session) : ¬ IsOpenAfter [] s := by
  rintro ⟨before, after, h, -⟩
  simp at h

theorem isOpenAfter_concat (s : Session) :
    IsOpenAfter (events ++ [event]) s ↔
      event = .openSession s ∨ IsOpenAfter events s ∧ event ≠ .closeSession s := by
  constructor
  · rintro ⟨before, after, h, hafter⟩
    rcases concat_eq_append_cons_iff.mp h with ⟨-, hevent, -⟩ | ⟨rest, rfl, hevents⟩
    · exact .inl hevent.symm
    · refine .inr ⟨⟨before, rest, hevents, fun hrest => ?_⟩, fun hevent => ?_⟩
      · exact hafter (List.mem_append_left [event] hrest)
      · exact hafter (by simp [hevent])
  · rintro (rfl | ⟨⟨before, after, rfl, hafter⟩, hevent⟩)
    · exact ⟨events, [], rfl, by simp⟩
    · refine ⟨before, after ++ [event], by simp, fun hmem => ?_⟩
      rcases List.mem_append.mp hmem with hmem | hmem
      · exact hafter hmem
      · exact hevent (List.mem_singleton.mp hmem).symm

theorem Orderly.nil : Orderly [] where
  sent before r after h := by simp at h
  single before after h s s' hs := by
    obtain ⟨rfl, -⟩ := List.nil_eq_append_iff.mp h
    exact absurd hs (not_isOpenAfter_nil s)
  fresh before s after h := by simp at h

/-- One more event keeps the order if it is in order itself. -/
theorem Orderly.concat
    (h : Orderly events)
    (hsent : ∀ r s, event = .request r → r.session = some s → IsOpenAfter events s)
    (hsingle : ∀ s s', IsOpenAfter (events ++ [event]) s → IsOpenAfter (events ++ [event]) s' →
      s = s')
    (hfresh : ∀ s, event = .openSession s → .openSession s ∉ events) :
    Orderly (events ++ [event]) where
  sent := by
    intro before r after hsplit s hs
    rcases concat_eq_append_cons_iff.mp hsplit with ⟨rfl, hevent, -⟩ | ⟨rest, -, hevents⟩
    · exact hsent r s hevent.symm hs
    · exact h.sent before r rest hevents s hs
  single := by
    intro before after hsplit s s' hs hs'
    rcases List.eq_nil_or_concat after with rfl | ⟨rest, last, rfl⟩
    · rw [List.append_nil] at hsplit
      rw [← hsplit] at hs hs'
      exact hsingle s s' hs hs'
    · rw [List.concat_eq_append, ← List.append_assoc] at hsplit
      exact h.single before rest (List.append_inj' hsplit rfl).1 s s' hs hs'
  fresh := by
    intro before s after hsplit
    rcases concat_eq_append_cons_iff.mp hsplit with ⟨rfl, hevent, -⟩ | ⟨rest, -, hevents⟩
    · exact hfresh s hevent.symm
    · exact h.fresh before s rest hevents

/-- Closing sessions keeps the order, and of the open sessions it leaves those that it spares. -/
theorem Orderly.append_closes
    (h : Orderly events) (hnew : ∀ event ∈ new, ∃ s, event = .closeSession s) :
    Orderly (events ++ new) ∧
      ∀ s, IsOpenAfter (events ++ new) s → IsOpenAfter events s ∧ .closeSession s ∉ new := by
  induction new generalizing events with
  | nil => simpa using h
  | cons event new ih =>
      obtain ⟨⟨closed, rfl⟩, hrest⟩ := List.forall_mem_cons.mp hnew
      have hspared (s : Session) (hs : IsOpenAfter (events ++ [.closeSession closed]) s) :
          IsOpenAfter events s ∧ Event.closeSession closed ≠ .closeSession s := by
        simpa using (isOpenAfter_concat s).mp hs
      have hfirst : Orderly (events ++ [.closeSession closed]) := by
        refine h.concat ?_ ?_ ?_
        · intro r s hevent
          cases hevent
        · intro s s' hs hs'
          exact h.single events [] (List.append_nil _).symm s s' (hspared s hs).1 (hspared s' hs').1
        · intro s hevent
          cases hevent
      obtain ⟨horderly, hleft⟩ := ih hfirst hrest
      rw [List.append_cons]
      refine ⟨horderly, fun s hs => ?_⟩
      obtain ⟨hopen, hlater⟩ := hleft s hs
      obtain ⟨hbefore, hother⟩ := hspared s hopen
      exact ⟨hbefore, List.not_mem_cons_of_ne_of_not_mem (Ne.symm hother) hlater⟩

end Events

/-! ## Closing -/

theorem Transport.session_make
    {base : Value} {config : Config} {usesTokens : Bool} {session : Option Session} {t : Transport}
    (h : Transport.make base config usesTokens session = .ok t) : t.sender.session = session := by
  obtain ⟨address, -, h⟩ := bind_eq_ok.mp h
  obtain ⟨sender, hsender, h⟩ := bind_eq_ok.mp h
  obtain ⟨attempts, -, hsender⟩ := bind_eq_ok.mp hsender
  cases h
  cases hsender
  rfl

theorem Transport.close_spec (t : Transport) (e : Exchange) :
    (t.close e).1.sender.session = none ∧
      (t.close e).2 =
        { e with events := e.events ++ t.sender.session.toList.map .closeSession } := by
  obtain ⟨base, config, usesTokens, attempts, delay, timeout, session⟩ := t
  cases session with
  | none => simp [Transport.close, Sender.close]
  | some s => exact ⟨rfl, rfl⟩

theorem Client.closeSession_eq (c : Client) (e : Exchange) :
    c.closeSession e = ({ c with session := none },
      { e with events := e.events ++ c.session.toList.map .closeSession }) := by
  obtain ⟨endpoint, config, usesTokens, transports, current, session⟩ := c
  cases session with
  | none => simp [closeSession]
  | some s => rfl

/-! ## Who holds a session -/

/-- The client holds the open session, alone or together with the transport in use. -/
structure Client.Holds (c : Client) (e : Exchange) : Prop where
  orderly : Orderly e.events
  numbered : ∀ s, .openSession s ∈ e.events → s < e.sessions
  isOpen : ∀ s, IsOpenAfter e.events s ↔ c.session = some s
  lent : ∀ i s, c.sessionOf i = some s → c.current = some i ∧ c.session = some s

namespace Client.Holds

variable {c c' : Client} {e e' : Exchange} {event : Event} {session : Option Session}

theorem of_silent
    (h : c.Holds e) (hsessions : e'.sessions = e.sessions) (hevents : e'.events = e.events) :
    c.Holds e' where
  orderly := hevents ▸ h.orderly
  numbered := by rw [hevents, hsessions]; exact h.numbered
  isOpen := by rw [hevents]; exact h.isOpen
  lent := h.lent

/-- One more event that is no matter of sessions, or a request through the client's session. -/
theorem record
    (h : c.Holds e) (hevent : event.IsVia session)
    (hsession : ∀ s, session = some s → c.session = some s) : c.Holds (e.record event) := by
  have hopen (s : Session) : IsOpenAfter (e.record event).events s ↔ c.session = some s := by
    rw [Exchange.record, isOpenAfter_concat, ← h.isOpen]
    cases event with
    | openSession s' => exact hevent.elim
    | closeSession s' => exact hevent.elim
    | _ => simp
  refine ⟨h.orderly.concat ?_ ?_ ?_, ?_, hopen, h.lent⟩
  · rintro r s rfl hs
    exact (h.isOpen s).mpr (hsession s (hevent.symm.trans hs))
  · intro s s' hs hs'
    exact Option.some.inj (((hopen s).mp hs).symm.trans ((hopen s').mp hs'))
  · rintro s rfl
    exact hevent.elim
  · intro s hs
    rcases List.mem_append.mp hs with hs | hs
    · exact h.numbered s hs
    · rw [← List.mem_singleton.mp hs] at hevent
      exact hevent.elim

/-- Whatever is sent through the session of the client leaves everything as it is. -/
theorem via
    (h : c.Holds e) (hvia : e.Via session e')
    (hsession : ∀ s, session = some s → c.session = some s) : c.Holds e' := by
  obtain ⟨hsessions, new, hevents, hnew⟩ := hvia
  induction new generalizing e with
  | nil => exact h.of_silent hsessions (hevents.trans (List.append_nil _))
  | cons event new ih =>
      obtain ⟨hevent, hnew⟩ := List.forall_mem_cons.mp hnew
      exact ih (h.record hevent hsession) hsessions (hevents.trans (by simp [Exchange.record])) hnew

/-- What a transport of the client sends goes through the session of the client. -/
theorem via_transport (h : c.Holds e) {i : Nat} (hvia : e.Via (c.sessionOf i) e') : c.Holds e' :=
  h.via hvia fun s hs => (h.lent i s hs).2

/-! ## Opening -/

theorem enter (h : c.Holds e) : (c.enter e).1.Holds (c.enter e).2 := by
  rw [Client.enter]
  cases hsession : c.session with
  | some s => exact h
  | none =>
      have hclosed (s : Session) : ¬ IsOpenAfter e.events s := by
        rw [h.isOpen, hsession]
        simp
      have hopen (s : Session) : IsOpenAfter (e.events ++ [.openSession e.sessions]) s ↔
          some e.sessions = some s := by
        rw [isOpenAfter_concat]
        simp [hclosed s]
      refine ⟨h.orderly.concat ?_ ?_ ?_, ?_, hopen, ?_⟩
      · intro r s hevent
        cases hevent
      · intro s s' hs hs'
        exact Option.some.inj (((hopen s).mp hs).symm.trans ((hopen s').mp hs'))
      · intro s hevent hmem
        cases hevent
        exact Nat.lt_irrefl _ (h.numbered _ hmem)
      · intro s hs
        rcases List.mem_append.mp hs with hs | hs
        · exact Nat.lt_succ_of_lt (h.numbered s hs)
        · cases List.mem_singleton.mp hs
          exact Nat.lt_succ_self _
      · intro i s hs
        have := (h.lent i s hs).2
        rw [hsession] at this
        cases this

/-! ## Closing -/

theorem closeTransport (h : c.Holds e) :
    ∃ lent : Option Session,
      (c.closeTransport e).2 = { e with events := e.events ++ lent.toList.map .closeSession } ∧
      (c.closeTransport e).1.session = c.session ∧ (c.closeTransport e).1.current = none ∧
      ∀ i, (c.closeTransport e).1.sessionOf i = none := by
  have hothers (i : Nat) (hi : c.current ≠ some i) : c.sessionOf i = none := by
    rw [Option.eq_none_iff_forall_ne_some]
    intro s hs
    exact hi (h.lent i s hs).1
  rw [Client.closeTransport]
  split
  · next i t hinUse =>
      obtain ⟨j, hcurrent, hpair⟩ := Option.bind_eq_some_iff.mp hinUse
      obtain ⟨t', ht, hpair⟩ := Option.map_eq_some_iff.mp hpair
      cases hpair
      obtain ⟨hclosed, hevents⟩ := t.close_spec e
      refine ⟨t.sender.session, hevents, rfl, rfl, fun j => ?_⟩
      by_cases hj : i = j
      · subst hj
        simp [sessionOf, (List.getElem?_eq_some_iff.mp ht).1, hclosed]
      · have := hothers j (by simpa [hcurrent] using hj)
        simpa [sessionOf, List.getElem?_set_ne hj] using this
  · next hunused =>
      refine ⟨none, by simp, rfl, rfl, fun i => ?_⟩
      by_cases hi : c.current = some i
      · rw [hi] at hunused
        have hmissing : c.transports[i]? = none := by simpa using hunused
        simp [sessionOf, hmissing]
      · exact hothers i hi

/-- Once the client is closed, nobody holds a session, and every session is closed. -/
theorem close (h : c.Holds e) :
    (c.close e).1.Holds (c.close e).2 ∧ (c.close e).1.session = none ∧
      (c.close e).1.current = none := by
  obtain ⟨lent, hevents, hsession, hcurrent, hlent⟩ := h.closeTransport
  rcases hfirst : c.closeTransport e with ⟨c', e'⟩
  rw [hfirst] at hevents hsession hcurrent hlent
  dsimp only at hevents hsession hcurrent hlent
  subst hevents
  have hcloses : ∀ event ∈ lent.toList.map Event.closeSession ++
      c.session.toList.map .closeSession, ∃ s, event = .closeSession s := by
    intro event hevent
    rw [← List.map_append] at hevent
    obtain ⟨s, -, rfl⟩ := List.mem_map.mp hevent
    exact ⟨s, rfl⟩
  obtain ⟨horderly, hleft⟩ := h.orderly.append_closes hcloses
  rw [Client.close, hfirst]
  dsimp only
  rw [closeSession_eq, hsession]
  dsimp only
  rw [List.append_assoc]
  refine ⟨⟨horderly, ?_, ?_, ?_⟩, rfl, hcurrent⟩
  · intro s hs
    rcases List.mem_append.mp hs with hs | hs
    · exact h.numbered s hs
    · obtain ⟨s', hs'⟩ := hcloses _ hs
      cases hs'
  · intro s
    refine iff_of_false (fun hs => ?_) (by simp)
    obtain ⟨hopen, hspared⟩ := hleft s hs
    exact hspared (by simp [(h.isOpen s).mp hopen])
  · intro i s hs
    exact absurd ((hlent i).symm.trans hs) (by simp)

/-! ## Queries -/

theorem transport {i : Nat} (h : c.Holds e) (htransport : c.transport = .ok (i, c')) :
    c'.Holds e := by
  rw [Client.transport] at htransport
  cases hcurrent : c.current with
  | some j =>
      rw [hcurrent] at htransport
      cases htransport
      exact h
  | none =>
      rw [hcurrent] at htransport
      obtain ⟨t, ht, hmade⟩ := map_eq_ok.mp htransport
      cases hmade
      refine ⟨h.orderly, h.numbered, h.isOpen, fun j s hs => ?_⟩
      -- No transport is in use, so none but the new one can have a session.
      have hold : c.sessionOf j = none := by
        rw [Option.eq_none_iff_forall_ne_some]
        intro s' hs'
        have := (h.lent j s' hs').1
        rw [hcurrent] at this
        cases this
      rw [sessionOf] at hold hs
      by_cases hj : j < c.transports.length
      · rw [List.getElem?_append_left hj, hold] at hs
        cases hs
      · rw [List.getElem?_append_right (Nat.le_of_not_lt hj)] at hs
        obtain ⟨t', ht', hs⟩ := Option.bind_eq_some_iff.mp hs
        have hplace : j = c.transports.length := by
          have := (List.getElem?_eq_some_iff.mp ht').1
          rw [List.length_singleton] at this
          omega
        subst hplace
        rw [Nat.sub_self] at ht'
        cases ht'
        exact ⟨rfl, Transport.session_make ht ▸ hs⟩

theorem obtain {answer : Except Fault Results × Client} (h : c.Holds e)
    (hanswer : c.Obtains answer) : answer.2.Holds e := by
  rcases hanswer with ⟨hsame, -⟩ | ⟨i, htransport, -⟩
  · rwa [hsame]
  · exact h.transport htransport

theorem count (h : c.Holds e) (table : Value) (q : Option TableQuery) :
    (c.count table q e).2.1.Holds (c.count table q e).2.2 := by
  rcases c.count_cases table q e with hsame | ⟨i, c', htransport, hclient, hfetch⟩
  · rwa [hsame]
  · have hmade := h.transport htransport
    rw [hclient]
    rcases hfetch with hsilent | ⟨target, hfetched⟩
    · rwa [hsilent]
    · rw [hfetched]
      exact hmade.via_transport (c'.via_fetch i Decoder.plain table target e)

/-! ## Streams -/

theorem next (h : c.Holds e) (results : Results) (cancelled : Bool) (t : Traversal Item)
    (stream : Stream Int Item) :
    c.Holds (t.next (c.source results) cancelled ⟨stream, e⟩).2.outside :=
  h.via_transport <| t.kept_next (.refl _) .trans (c.via_source results) cancelled ⟨stream, e⟩

theorem read (h : c.Holds e) (results : Results) (cancelled : Bool) (reading : Reading)
    (stream : Stream Int Item) :
    c.Holds (reading.perform (c.source results) cancelled ⟨stream, e⟩).outside :=
  h.via_transport <| reading.kept_perform (.refl _) .trans (c.via_source results) cancelled
    ⟨stream, e⟩

end Client.Holds

/-! ## Steps -/

/-- Every step of a client and of its streams leaves the sessions with those who hold them. -/
theorem ClientStep.holds_perform
    {d : Desk} (h : d.client.Holds d.exchange) (step : ClientStep) :
    (step.perform d).client.Holds (step.perform d).exchange := by
  cases step with
  | enter => exact h.enter
  | leave => exact h.close.1
  | close => exact h.close.1
  | execute table q => exact h.obtain (d.client.obtains_execute table q)
  | run q => exact h.obtain (d.client.obtains_run q)
  | get table query row => exact h.obtain (d.client.obtains_get table query row)
  | count table q => exact h.count table q
  | clock now => exact h.of_silent rfl rfl
  | traverse i stride => exact h
  | advance i cancelled =>
      rw [perform]
      split
      · exact h
      · split
        · exact h
        · exact h.next _ _ _ _
  | read i cancelled reading =>
      rw [perform]
      split
      · exact h
      · exact h.read _ _ _ _

theorem Desk.holds_run
    {d : Desk} (h : d.client.Holds d.exchange) (steps : List ClientStep) :
    (d.run steps).client.Holds (d.run steps).exchange := by
  induction steps generalizing d with
  | nil => exact h
  | cons step rest ih => exact ih (step.holds_perform h)

theorem Client.holds_make
    {endpoint : Value} {config : Config} {usesTokens : Bool} {c : Client}
    (h : Client.make endpoint config usesTokens = .ok c) (replies : List Reply)
    (tokenReplies : List TokenReply) (now : Value) (sleep : Value → Except Fault Unit) :
    c.Holds (.start replies tokenReplies now sleep) := by
  obtain ⟨address, -, hmade⟩ := bind_eq_ok.mp h
  cases hmade
  refine ⟨.nil, ?_, ?_, ?_⟩
  · intro s hs
    cases hs
  · intro s
    exact iff_of_false (not_isOpenAfter_nil s) (by simp)
  · intro i s hs
    cases hs

/--
Whatever the steps of a client and its streams are, and in whatever order they come: no request is
sent through a session that has been closed, and there is never more than one open session. When
the client is closed or left, every session that it ever opened is closed, and it has neither a
session nor a transport.
-/
theorem Desk.sessions_of_steps
    {endpoint : Value} {config : Config} {usesTokens : Bool} {c : Client}
    (hmake : Client.make endpoint config usesTokens = .ok c) (replies : List Reply)
    (tokenReplies : List TokenReply) (now : Value) (sleep : Value → Except Fault Unit)
    (steps : List ClientStep) {d : Desk}
    (hd : d = (Desk.start c (.start replies tokenReplies now sleep)).run steps) :
    Orderly d.exchange.events ∧
      ∀ step : ClientStep, step = .close ∨ step = .leave →
        (∀ s, ¬ IsOpenAfter (step.perform d).exchange.events s) ∧
          (step.perform d).client.session = none ∧ (step.perform d).client.current = none := by
  have hholds : d.client.Holds d.exchange :=
    hd ▸ Desk.holds_run (Client.holds_make hmake replies tokenReplies now sleep) steps
  obtain ⟨hclosed, hsession, hcurrent⟩ := hholds.close
  refine ⟨hholds.orderly, fun step hstep => ?_⟩
  have hopen (s : Session) : ¬ IsOpenAfter (d.client.close d.exchange).2.events s := by
    rw [hclosed.isOpen, hsession]
    simp
  rcases hstep with rfl | rfl
  · exact ⟨hopen, hsession, hcurrent⟩
  · exact ⟨hopen, hsession, hcurrent⟩

namespace Desk

/-- A client that has done nothing yet. -/
def idleClient : Client :=
  ⟨"https://ds.example.com", .default, false, [], none, none⟩

/-- A page with a link and one without a link. -/
def twoPages : List Reply :=
  [.response ⟨200, [], "\x7b\"items\": [], \"nextLink\": \"more\"\x7d"⟩,
    .response ⟨200, [], "\x7b\"items\": []\x7d"⟩]

/-- The second page of a stream is fetched after its client has been left and entered again. -/
def lateDesk : Desk :=
  (start idleClient (.start twoPages [] (.int 0) systemSleep)).run
    [.enter, .get (.text "t") .null .untyped, .traverse 0 .byPage, .advance 0 false, .leave, .enter,
      .advance 0 false]

theorem sessions_of_steps_lateDesk :
    Client.make (.text "https://ds.example.com") .default false = .ok idleClient ∧
      (requestsOf lateDesk.exchange.events).map Request.session = [some 0, none] ∧
      lateDesk.client.session = some 1 ∧ Orderly lateDesk.exchange.events ∧
      (∀ s, ¬ IsOpenAfter (ClientStep.close.perform lateDesk).exchange.events s) ∧
      (ClientStep.close.perform lateDesk).client.session = none := by
  have hmake : Client.make (.text "https://ds.example.com") .default false = .ok idleClient := rfl
  have hrequests : (requestsOf lateDesk.exchange.events).map Request.session = [some 0, none] := by
    decide +kernel
  have hsession : lateDesk.client.session = some 1 := by decide +kernel
  obtain ⟨horderly, hclose⟩ := sessions_of_steps hmake twoPages [] (.int 0) systemSleep
    [.enter, .get (.text "t") .null .untyped, .traverse 0 .byPage, .advance 0 false, .leave, .enter,
      .advance 0 false] (d := lateDesk) rfl
  obtain ⟨hclosed, hnone, -⟩ := hclose .close (.inl rfl)
  exact ⟨hmake, hrequests, hsession, horderly, hclosed, hnone⟩

end Desk

end PagedTables
