import PagedTables.Proofs.Result
import PagedTables.Service.Client

/-!
# Clients and their transports

A client is made for an endpoint and goes through steps: it is entered and closed, and its queries
are run. Whatever the steps are, each transport that it has was made from its endpoint and its
settings. Only the session of a transport changes, when it is closed.
-/
namespace PagedTables

/-- The clients that there can be. -/
inductive Client.Reachable : Client → Prop
  | made {endpoint : Value} {config : Config} {usesTokens : Bool} {c : Client}
      (h : Client.make endpoint config usesTokens = .ok c) : Reachable c
  | entered {c : Client} (h : Reachable c) (e : Exchange) : Reachable (c.enter e).1
  | closed {c : Client} (h : Reachable c) (e : Exchange) : Reachable (c.close e).1
  | executed {c : Client} (h : Reachable c) (table : Value) (q : TableQuery) :
      Reachable (c.execute table q).2
  | got {c : Client} (h : Reachable c) (table query : Value) (row : RowType) :
      Reachable (c.get table query row).2
  | counted {c : Client} (h : Reachable c) (table : Value) (q : Option TableQuery) (e : Exchange) :
      Reachable (c.count table q e).2.1

/-- The transport is to the endpoint of a client, with its settings. -/
structure Transport.IsOf (t : Transport) (c : Client) : Prop where
  address : Transport.address .baseUrl (.text c.endpoint) = .ok t.baseUrl
  config : t.config = c.config
  usesTokens : t.usesTokens = c.usesTokens
  attempts : Sender.attemptLimit c.config.attempts = .ok t.sender.attempts

/-- Two clients have the same endpoint and the same settings. -/
structure Client.Alike (c c' : Client) : Prop where
  endpoint : c'.endpoint = c.endpoint
  config : c'.config = c.config
  usesTokens : c'.usesTokens = c.usesTokens

theorem Transport.IsOf.of_alike {t : Transport} {c c' : Client} (h : t.IsOf c)
    (halike : c.Alike c') : t.IsOf c' where
  address := halike.endpoint ▸ h.address
  config := h.config.trans halike.config.symm
  usesTokens := h.usesTokens.trans halike.usesTokens.symm
  attempts := halike.config ▸ h.attempts

theorem Transport.isOf_make
    {c : Client} {session : Option Session} {t : Transport}
    (h : Transport.make (.text c.endpoint) c.config c.usesTokens session = .ok t) : t.IsOf c := by
  obtain ⟨base, hbase, h⟩ := bind_eq_ok.mp h
  obtain ⟨sender, hsender, h⟩ := bind_eq_ok.mp h
  obtain ⟨attempts, hattempts, hsender⟩ := bind_eq_ok.mp hsender
  cases h
  cases hsender
  exact ⟨hbase, rfl, rfl, hattempts⟩

/-- Closing a transport changes nothing but its session. -/
theorem Transport.IsOf.close {t : Transport} {c : Client} (h : t.IsOf c) (e : Exchange) :
    (t.close e).1.IsOf c := by
  obtain ⟨base, config, usesTokens, attempts, delay, timeout, session⟩ := t
  cases session with
  | none => exact h
  | some session => exact ⟨h.address, h.config, h.usesTokens, h.attempts⟩

namespace Client

/--
A query leaves the client as it is and gives no results, or it finds or makes a transport, which its
results go by if it gives any.
-/
def Obtains (c : Client) (answer : Except Fault Results × Client) : Prop :=
  (answer.2 = c ∧ ∀ results, answer.1 ≠ .ok results) ∨
    ∃ i, c.transport = .ok (i, answer.2) ∧ ∀ results, answer.1 = .ok results → results.transport = i

theorem obtains_error (c : Client) (fault : Fault) : c.Obtains (.error fault, c) :=
  .inl ⟨rfl, by simp⟩

theorem obtains_execute (c : Client) (table : Value) (q : TableQuery) :
    c.Obtains (c.execute table q) := by
  rw [execute]
  split
  · exact c.obtains_error _
  · exact c.obtains_error _
  · split
    · exact c.obtains_error _
    · next i c' htransport =>
        refine .inr ⟨i, htransport, fun results hresults => ?_⟩
        cases hresults
        rfl

theorem obtains_run (c : Client) (q : TableQuery) : c.Obtains (c.run q) := by
  rw [run]
  split
  · exact c.obtains_execute _ q
  · exact c.obtains_error _

theorem obtains_get (c : Client) (table query : Value) (row : RowType) :
    c.Obtains (c.get table query row) := by
  rw [get]
  split
  · exact c.obtains_error _
  · split
    · exact c.obtains_error _
    · next i c' htransport =>
        refine .inr ⟨i, htransport, fun results hresults => ?_⟩
        obtain ⟨text, -, rfl⟩ := map_eq_ok.mp hresults
        rfl

/--
A count leaves everything as it is, or it finds or makes a transport, which at most one page is
fetched with.
-/
theorem count_cases (c : Client) (table : Value) (q : Option TableQuery) (e : Exchange) :
    (c.count table q e).2 = (c, e) ∨
      ∃ i c', c.transport = .ok (i, c') ∧ (c.count table q e).2.1 = c' ∧
        ((c.count table q e).2.2 = e ∨
          ∃ target, (c.count table q e).2.2 = (c'.fetch i Decoder.plain table target e).2) := by
  rw [count]
  split
  · exact .inl rfl
  · next i c' htransport =>
      refine .inr ⟨i, c', htransport, ?_⟩
      split
      · exact ⟨rfl, .inl rfl⟩
      · next query _ =>
          split
          · next hanswer =>
              exact ⟨rfl, .inr ⟨.query (.text query), by rw [hanswer]⟩⟩
          · next hanswer =>
              exact ⟨rfl, .inr ⟨.query (.text query), by rw [hanswer]⟩⟩

/-- The transports of a client are its own, the one in use among them. -/
structure Sound (c : Client) : Prop where
  inUse : ∀ i, c.current = some i → i < c.transports.length
  own : ∀ t ∈ c.transports, t.IsOf c

variable {c c' : Client}

theorem sound_transport {i : Nat} (hc : c.Sound) (h : c.transport = .ok (i, c')) :
    c'.Sound ∧ c.Alike c' ∧ ∃ t, c'.transports[i]? = some t ∧ t.IsOf c := by
  rw [transport] at h
  cases hcurrent : c.current with
  | some j =>
      rw [hcurrent] at h
      cases h
      have hlt := hc.inUse i hcurrent
      exact ⟨hc, ⟨rfl, rfl, rfl⟩, c.transports[i], List.getElem?_eq_getElem hlt,
        hc.own _ (List.getElem_mem hlt)⟩
  | none =>
      rw [hcurrent] at h
      obtain ⟨t, ht, h⟩ := map_eq_ok.mp h
      cases h
      have hown := Transport.isOf_make ht
      refine ⟨⟨?_, ?_⟩, ⟨rfl, rfl, rfl⟩, t, by simp, hown⟩
      · rintro i hi
        cases hi
        simp
      · intro t' ht'
        rcases List.mem_append.mp ht' with ht' | ht'
        · exact (hc.own t' ht').of_alike ⟨rfl, rfl, rfl⟩
        · rw [List.mem_singleton.mp ht']
          exact hown.of_alike ⟨rfl, rfl, rfl⟩

theorem sound_enter (hc : c.Sound) (e : Exchange) : (c.enter e).1.Sound := by
  rw [enter]
  split
  · exact hc
  · exact ⟨hc.inUse, fun t ht => (hc.own t ht).of_alike ⟨rfl, rfl, rfl⟩⟩

theorem sound_closeTransport (hc : c.Sound) (e : Exchange) : (c.closeTransport e).1.Sound := by
  rw [closeTransport]
  split
  · next i t hcurrent =>
      obtain ⟨j, -, hpair⟩ := Option.bind_eq_some_iff.mp hcurrent
      obtain ⟨t', ht', hpair⟩ := Option.map_eq_some_iff.mp hpair
      cases hpair
      have hown := (hc.own t (List.mem_of_getElem? ht')).close e
      refine ⟨by simp, fun t' ht' => ?_⟩
      rcases List.mem_or_eq_of_mem_set ht' with ht' | rfl
      · exact (hc.own t' ht').of_alike ⟨rfl, rfl, rfl⟩
      · exact hown.of_alike ⟨rfl, rfl, rfl⟩
  · exact ⟨by simp, fun t ht => (hc.own t ht).of_alike ⟨rfl, rfl, rfl⟩⟩

theorem sound_closeSession (hc : c.Sound) (e : Exchange) : (c.closeSession e).1.Sound := by
  rw [closeSession]
  split
  · exact ⟨hc.inUse, fun t ht => (hc.own t ht).of_alike ⟨rfl, rfl, rfl⟩⟩
  · exact hc

theorem sound_close (hc : c.Sound) (e : Exchange) : (c.close e).1.Sound :=
  sound_closeSession (sound_closeTransport hc e) _

theorem sound_obtain {answer : Except Fault Results × Client} (hc : c.Sound)
    (h : c.Obtains answer) : answer.2.Sound := by
  rcases h with ⟨hsame, -⟩ | ⟨i, htransport, -⟩
  · rwa [hsame]
  · exact (sound_transport hc htransport).1

theorem sound_count (hc : c.Sound) (table : Value) (q : Option TableQuery) (e : Exchange) :
    (c.count table q e).2.1.Sound := by
  rcases c.count_cases table q e with hsame | ⟨i, c', htransport, hclient, -⟩
  · rwa [hsame]
  · rw [hclient]
    exact (sound_transport hc htransport).1

/-- Every transport that a client comes to have is its own. -/
theorem Reachable.sound (h : c.Reachable) : c.Sound := by
  induction h with
  | made hmake =>
      obtain ⟨endpoint, -, hmake⟩ := bind_eq_ok.mp hmake
      cases hmake
      exact ⟨by simp, by simp⟩
  | entered _ e ih => exact sound_enter ih e
  | closed _ e ih => exact sound_close ih e
  | executed _ table q ih => exact sound_obtain ih (obtains_execute _ table q)
  | got _ table query row ih => exact sound_obtain ih (obtains_get _ table query row)
  | counted _ table q e ih => exact sound_count ih table q e

/-- What a query is run with. -/
theorem run_eq_ok {q : TableQuery} {results : Results} (h : c.run q = (.ok results, c')) :
    ∃ name s decode i, q.table = some name ∧ q.queryString true = .ok s ∧
      q.decoder = .ok decode ∧ c.transport = .ok (i, c') ∧
      results = ⟨i, .text name, .text s, decode⟩ := by
  rw [run] at h
  split at h
  · next name htable =>
      rw [execute] at h
      split at h
      · cases h
      · cases h
      · next s decode hs hdecode =>
          split at h
          · cases h
          · next i c'' htransport =>
              cases h
              exact ⟨name, s, decode, i, htable, hs, hdecode, htransport, rfl⟩
  · cases h

end Client

end PagedTables
