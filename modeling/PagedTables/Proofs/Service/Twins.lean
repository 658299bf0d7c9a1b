import Mathlib.Data.List.Forall2
import PagedTables.Proofs.Query.Chain
import PagedTables.Proofs.Service.Desk
import PagedTables.Proofs.Service.Traffic

/-!
# Queries and their query strings

A query can be run as it is, or written out and given to the client as a query string, beside the
type of the rows. The results are twins: they go by the same transport, to the same address, and
decode items in the same way. They are not the same, since a query string loses the question marks
in front of it when it is given, and that of a query only when the page is fetched.

Two clients at work that differ by twins alone give the same answer to every step and differ by
twins alone afterwards. So whatever is done from then on, nothing tells the two ways apart.
-/
namespace PagedTables

/-! ## Answers -/

/-- What a step gives to those who make it. -/
inductive ClientAnswer where
  | done
  /-- A query gives results, or it fails. -/
  | results (fault : Option Fault)
  | total (answer : Except Fault Int)
  | page (answer : Advance (Page Int Item))
  | item (answer : Advance Item)
  | items (answer : Except Fault (List Item))
  | pages (answer : Except Fault (List (Page Int Item)))
  | index (answer : Except Fault (PageSource.Index Item))

/-- The failure, unless there is a result. -/
def faultOf {α : Type} : Except Fault α → Option Fault
  | .ok _ => none
  | .error fault => some fault

/-- What advancing a traversal gives. -/
def Traversal.answer {σ : Type} (source : PageSource σ Int Item) (cancelled : Bool)
    (s : Scene σ Int Item) : Traversal Item → ClientAnswer
  | byPage c => .page (source.nextPage cancelled c s).1
  | byItem c => .item (source.nextItem cancelled c s).1

/-- What reading a source as a whole gives. -/
def Reading.answer {σ : Type} (source : PageSource σ Int Item) (cancelled : Bool)
    (s : Scene σ Int Item) : Reading → ClientAnswer
  | items => .items (source.toList cancelled s).1
  | pages => .pages (source.allPages cancelled s).1
  | byKey key => .index (source.index cancelled key.of s).1

/-- What a step gives. -/
def ClientStep.answer (d : Desk) : ClientStep → ClientAnswer
  | execute table q => .results (faultOf (d.client.execute table q).1)
  | run q => .results (faultOf (d.client.run q).1)
  | get table query row => .results (faultOf (d.client.get table query row).1)
  | count table q => .total (d.client.count table q d.exchange).1
  | advance i cancelled =>
    match d.traversals[i]? with
    | none => .done
    | some (j, t) =>
      match d.streams[j]? with
      | none => .done
      | some (results, stream) =>
        t.answer (d.client.source results) cancelled ⟨stream, d.exchange⟩
  | read i cancelled reading =>
    match d.streams[i]? with
    | none => .done
    | some (results, stream) =>
      reading.answer (d.client.source results) cancelled ⟨stream, d.exchange⟩
  | _ => .done

def Desk.answers (d : Desk) : List ClientStep → List ClientAnswer
  | [] => []
  | step :: rest => step.answer d :: Desk.answers (step.perform d) rest

/-! ## Twins -/

/-- The results go by the same transport, to the same address, and decode items in the same way. -/
structure Results.Twin (r r' : Results) : Prop where
  transport : r'.transport = r.transport
  decode : r'.decode = r.decode
  address : ∀ t : Transport,
    t.pageUrl r'.table (.query r'.query) = t.pageUrl r.table (.query r.query)

theorem Results.Twin.refl (r : Results) : r.Twin r :=
  ⟨rfl, rfl, fun _ => rfl⟩

def Results.TwinStreams (a b : Results × Stream Int Item) : Prop :=
  a.1.Twin b.1 ∧ b.2 = a.2

/-- Two clients at work that differ by twins alone. -/
structure Desk.Twin (d d' : Desk) : Prop where
  client : d'.client = d.client
  exchange : d'.exchange = d.exchange
  traversals : d'.traversals = d.traversals
  streams : List.Forall₂ Results.TwinStreams d.streams d'.streams

theorem Transport.fetchPage_congr
    {ι : Type} (t : Transport) (decode : JsonObject → Except Fault ι) {table table' : Value}
    {target target' : Target} (h : t.pageUrl table' target' = t.pageUrl table target)
    (e : Exchange) : t.fetchPage decode table' target' e = t.fetchPage decode table target e := by
  rw [fetchPage, fetchPage, h]

/-- Twins have the same pages. -/
theorem Results.Twin.source_eq {r r' : Results} (h : r.Twin r') (c : Client) :
    c.source r' = c.source r := by
  have hfetch (target : Option Link) (e : Exchange) :
      (c.source r').fetch target e = (c.source r).fetch target e := by
    change c.fetch r'.transport r'.decode r'.table _ e = c.fetch r.transport r.decode r.table _ e
    rw [h.transport, h.decode, Client.fetch, Client.fetch]
    cases c.transports[r.transport]? with
    | none => rfl
    | some t =>
        -- Only the address of the first page depends on the table and the query string.
        cases target with
        | none => exact t.fetchPage_congr r.decode (h.address t) e
        | some link =>
            refine t.fetchPage_congr r.decode ?_ e
            rw [Transport.pageUrl_link, Transport.pageUrl_link]
  have hsame : (c.source r').fetch = (c.source r).fetch :=
    funext fun target => funext (hfetch target)
  unfold Client.source at hsame ⊢
  congr

section

variable {α β : Type} {R : α → β → Prop} {as : List α} {bs : List β}

/-- Related lists have nothing at the same places, and related elements elsewhere. -/
theorem getElem?_of_forall₂ (h : List.Forall₂ R as bs) (i : Nat) :
    as[i]? = none ∧ bs[i]? = none ∨ ∃ a b, as[i]? = some a ∧ bs[i]? = some b ∧ R a b := by
  induction h generalizing i with
  | nil => exact .inl ⟨rfl, rfl⟩
  | cons hab hrest ih =>
      cases i with
      | zero => exact .inr ⟨_, _, rfl, rfl, hab⟩
      | succ i => exact ih i

theorem forall₂_set (h : List.Forall₂ R as bs) (i : Nat) {a : α} {b : β} (hab : R a b) :
    List.Forall₂ R (as.set i a) (bs.set i b) := by
  induction h generalizing i with
  | nil => exact .nil
  | cons hfirst hrest ih =>
      cases i with
      | zero => exact .cons hab hrest
      | succ i => exact .cons hfirst (ih i)

end

namespace Desk.Twin

variable {d d' : Desk}

/-- Both clients obtain twins, or nothing. -/
theorem obtain
    {answer answer' : Except Fault Results × Client} (h : d.Twin d')
    (hclient : answer'.2 = answer.2)
    (hresults : List.Forall₂ Results.Twin answer.1.toOption.toList answer'.1.toOption.toList) :
    (d.obtain answer).Twin (d'.obtain answer') where
  client := hclient
  exchange := h.exchange
  traversals := h.traversals
  streams := by
    refine List.rel_append h.streams (List.rel_map (R := Results.Twin) ?_ hresults)
    exact fun r r' htwin => ⟨htwin, rfl⟩

theorem obtain_same (h : d.Twin d') (answer : Except Fault Results × Client) :
    (d.obtain answer).Twin (d'.obtain answer) := by
  refine h.obtain rfl ?_
  rw [List.forall₂_same]
  exact fun r _ => .refl r

theorem withStream
    {results results' : Results} (h : d.Twin d') (i : Nat) (htwin : results.Twin results')
    (scene : Scene Exchange Int Item) :
    (d.withStream i results scene).Twin (d'.withStream i results' scene) where
  client := h.client
  exchange := rfl
  traversals := h.traversals
  streams := forall₂_set h.streams i ⟨htwin, rfl⟩

end Desk.Twin

/-! ## Steps -/

/-- A step gives the same on both sides, and leaves nothing but twins as a difference. -/
theorem ClientStep.twin_perform {d d' : Desk} (h : d.Twin d') (step : ClientStep) :
    step.answer d' = step.answer d ∧ (step.perform d).Twin (step.perform d') := by
  obtain ⟨client, exchange, streams', traversals⟩ := d'
  obtain ⟨hclient, hexchange, htraversals, hstreams⟩ := h
  dsimp only at hclient hexchange htraversals hstreams
  subst hclient hexchange htraversals
  have htwin : d.Twin ⟨d.client, d.exchange, streams', d.traversals⟩ := ⟨rfl, rfl, rfl, hstreams⟩
  cases step with
  | enter => exact ⟨rfl, rfl, rfl, rfl, hstreams⟩
  | leave => exact ⟨rfl, rfl, rfl, rfl, hstreams⟩
  | close => exact ⟨rfl, rfl, rfl, rfl, hstreams⟩
  | execute table q => exact ⟨rfl, htwin.obtain_same _⟩
  | run q => exact ⟨rfl, htwin.obtain_same _⟩
  | get table query row => exact ⟨rfl, htwin.obtain_same _⟩
  | count table q => exact ⟨rfl, rfl, rfl, rfl, hstreams⟩
  | clock now => exact ⟨rfl, rfl, rfl, rfl, hstreams⟩
  | traverse i stride => exact ⟨rfl, rfl, rfl, rfl, hstreams⟩
  | advance i cancelled =>
      -- What is seen of twins is the source that they are read from, and that is the same.
      simp only [answer, perform]
      cases d.traversals[i]? with
      | none => exact ⟨rfl, htwin⟩
      | some traversal =>
          obtain ⟨j, t⟩ := traversal
          rcases getElem?_of_forall₂ hstreams j with
            ⟨hnone, hnone'⟩ | ⟨⟨r, stream⟩, ⟨r', stream'⟩, hsome, hsome', hresults, hmemory⟩
          · simp only [hnone, hnone']
            exact ⟨trivial, htwin⟩
          · obtain rfl : stream' = stream := hmemory
            simp only [hsome, hsome']
            rw [hresults.source_eq]
            have hread := htwin.withStream j hresults
              (t.next (d.client.source r) cancelled ⟨stream', d.exchange⟩).2
            exact ⟨rfl, hread.client, hread.exchange, rfl, hread.streams⟩
  | read i cancelled reading =>
      simp only [answer, perform]
      rcases getElem?_of_forall₂ hstreams i with
        ⟨hnone, hnone'⟩ | ⟨⟨r, stream⟩, ⟨r', stream'⟩, hsome, hsome', hresults, hmemory⟩
      · simp only [hnone, hnone']
        exact ⟨trivial, htwin⟩
      · obtain rfl : stream' = stream := hmemory
        simp only [hsome, hsome']
        rw [hresults.source_eq]
        exact ⟨rfl, htwin.withStream i hresults _⟩

theorem Desk.twin_run {d d' : Desk} (h : d.Twin d') (steps : List ClientStep) :
    d'.answers steps = d.answers steps ∧ (d.run steps).Twin (d'.run steps) := by
  induction steps generalizing d d' with
  | nil => exact ⟨rfl, h⟩
  | cons step rest ih =>
      obtain ⟨hanswer, hstep⟩ := step.twin_perform h
      obtain ⟨hanswers, hrest⟩ := ih hstep
      refine ⟨?_, hrest⟩
      rw [answers, answers, hanswer, hanswers]

/-! ## A query and its query string -/

def BuilderCall.selects : BuilderCall → Bool
  | select _ _ _ => true
  | _ => false

theorem BuilderCall.columns?_effect
    {call : BuilderCall} {effect : QueryEffect} (hcall : call.selects = false)
    (h : call.effect = .ok effect) : effect.columns? = none := by
  have hparameters {entries : List (Value × Value)}
      (hentries : parametersEffect entries = .ok effect) : effect.columns? = none := by
    obtain ⟨given, -, rfl⟩ := map_eq_ok.mp hentries
    rfl
  cases call with
  | select fields named into => cases hcall
  | filter predicate =>
      obtain ⟨e, -, rfl⟩ := map_eq_ok.mp h
      rfl
  | orderBy key ascending =>
      obtain ⟨e, -, rfl⟩ := map_eq_ok.mp h
      rfl
  | thenBy key ascending =>
      obtain ⟨e, -, rfl⟩ := map_eq_ok.mp h
      rfl
  | skip count =>
      rw [BuilderCall.effect] at h
      split at h <;> cases h
      rfl
  | take count =>
      rw [BuilderCall.effect] at h
      split at h <;> cases h
      rfl
  | includeDeleted enabled =>
      cases h
      rfl
  | includeCount enabled =>
      cases h
      rfl
  | withParameter name value => exact hparameters h
  | withParameters entries => exact hparameters h

/-- Without a call that selects columns, items keep all of them. -/
theorem TableQuery.selection_chain
    (row : RowType) (naming : Naming) (table : Option String) {calls : List BuilderCall}
    (hcalls : ∀ call ∈ calls, call.selects = false) :
    ((all row naming table).chain calls).spec.selection = none := by
  rw [chain_eq_ofEffects]
  have hnone : (effectsOf calls).filterMap QueryEffect.columns? = [] := by
    rw [List.filterMap_eq_nil_iff]
    intro effect heffect
    obtain ⟨call, hmem, hsome⟩ := List.mem_filterMap.mp heffect
    refine BuilderCall.columns?_effect (hcalls call hmem) ?_
    cases hcall : call.effect with
    | ok effect' =>
        rw [hcall] at hsome
        cases hsome
        rfl
    | error fault =>
        rw [hcall] at hsome
        cases hsome
  change ((effectsOf calls).filterMap QueryEffect.columns?).getLast?.map Prod.fst = none
  rw [hnone]
  rfl

theorem Transport.withoutMarks_withoutMarks (s : String) :
    withoutMarks (withoutMarks s) = withoutMarks s := by
  rw [withoutMarks_eq_self_iff, withoutMarks, String.toList_ofList]
  intro hhead
  have hfirst := List.head?_dropWhile_not (· = '?') s.toList
  rw [hhead] at hfirst
  exact absurd hfirst (by decide)

/-- The address of a page does not change with question marks in front of a query string. -/
theorem Transport.pageUrl_withoutMarks
    (t : Transport) {table : Value} {name : String} (hname : table.asText? = some name)
    (s : String) :
    t.pageUrl table (.query (.text (withoutMarks s))) =
      t.pageUrl (.text name) (.query (.text s)) := by
  have htable : t.tableUrl table = t.tableUrl (.text name) := by
    have htrimmed : trimmed table = trimmed (.text name) := by
      unfold trimmed
      rw [hname]
      rfl
    rw [tableUrl, tableUrl, htrimmed]
  have hbare (s : String) : bareQuery (.text s) = .ok (withoutMarks s) := rfl
  rw [pageUrl, pageUrl, htable, hbare, hbare, withoutMarks_withoutMarks]

namespace Client

/-- What a query is run with is what its query string is run with, up to twins. -/
theorem twin_run_get
    {c : Client} {table : Value} {row : RowType} {q : TableQuery} (hq : c.builder table row = .ok q)
    {calls : List BuilderCall} (hcalls : ∀ call ∈ calls, call.selects = false) {s : String}
    (hs : (q.chain calls).queryString true = .ok s) :
    (c.get table (.text s) row).2 = (c.run (q.chain calls)).2 ∧
      faultOf (c.get table (.text s) row).1 = faultOf (c.run (q.chain calls)).1 ∧
      List.Forall₂ Results.Twin (c.run (q.chain calls)).1.toOption.toList
        (c.get table (.text s) row).1.toOption.toList := by
  obtain ⟨name, hname, -, rfl⟩ := builder_eq_ok hq
  obtain ⟨components, hcomponents, -⟩ := map_eq_ok.mp hs
  obtain ⟨schema, hschema, -⟩ := bind_eq_ok.mp hcomponents
  have htable := TableQuery.table_chain row c.config.naming (some name) calls
  have hselection := TableQuery.selection_chain row c.config.naming (some name) hcalls
  have hrow : row.schema c.config.naming = .ok schema := by
    rwa [chain_eq_ofEffects] at hschema
  have hdecoder : ((TableQuery.all row c.config.naming (some name)).chain calls).decoder =
      .ok schema.decoder := by
    rw [TableQuery.decoder, TableQuery.reader, hschema]
    simp only [bind, Except.bind, hselection]
    rfl
  rw [run, htable]
  dsimp only
  rw [execute, hs, hdecoder, get, hrow]
  dsimp only
  cases htransport : c.transport with
  | error fault => exact ⟨rfl, rfl, .nil⟩
  | ok made =>
      obtain ⟨i, c'⟩ := made
      refine ⟨rfl, rfl, .cons ⟨rfl, rfl, fun t => ?_⟩ .nil⟩
      exact t.pageUrl_withoutMarks hname s

theorem config_transport {c c' : Client} {i : Nat} (h : c.transport = .ok (i, c')) :
    c'.config = c.config := by
  rw [transport] at h
  cases hcurrent : c.current with
  | some j =>
      rw [hcurrent] at h
      cases h
      rfl
  | none =>
      rw [hcurrent] at h
      obtain ⟨t, -, hmade⟩ := map_eq_ok.mp h
      cases hmade
      rfl

theorem Obtains.config {c : Client} {answer : Except Fault Results × Client}
    (h : c.Obtains answer) : answer.2.config = c.config := by
  rcases h with ⟨hsame, -⟩ | ⟨i, htransport, -⟩
  · rw [hsame]
  · exact config_transport htransport

theorem config_close (c : Client) (e : Exchange) : (c.close e).1.config = c.config := by
  have hfirst : (c.closeTransport e).1.config = c.config := by
    rw [closeTransport]
    split <;> rfl
  rw [close]
  dsimp only
  rw [closeSession]
  split <;> exact hfirst

end Client

/-- No step changes the settings of a client. -/
theorem ClientStep.config_perform (d : Desk) (step : ClientStep) :
    (step.perform d).client.config = d.client.config := by
  cases step with
  | enter =>
      rw [perform, Client.enter]
      split <;> rfl
  | leave => exact d.client.config_close d.exchange
  | close => exact d.client.config_close d.exchange
  | execute table q => exact (d.client.obtains_execute table q).config
  | run q => exact (d.client.obtains_run q).config
  | get table query row => exact (d.client.obtains_get table query row).config
  | count table q =>
      rw [perform]
      rcases d.client.count_cases table q d.exchange with hsame | ⟨i, c', htransport, hclient, -⟩
      · rw [hsame]
      · rw [hclient]
        exact Client.config_transport htransport
  | clock now => rfl
  | traverse i stride => rfl
  | advance i cancelled => rw [client_advance]
  | read i cancelled reading => rw [client_read]

theorem Desk.config_run (d : Desk) (steps : List ClientStep) :
    (d.run steps).client.config = d.client.config := by
  induction steps generalizing d with
  | nil => rfl
  | cons step rest ih => exact (ih (step.perform d)).trans (step.config_perform d)

/--
A query that selects no columns can be run as it is or by its query string. Whatever was done with
the client before and is done with it and its streams afterwards, and whatever the service, the
credential and the clock do: every step gives the same, the same requests pass in the same order,
and all traversals are in the same states and all streams remember the same.
-/
theorem Desk.run_agrees_get
    (c : Client) (e : Exchange) {table : Value} {row : RowType} {q : TableQuery}
    (hq : c.builder table row = .ok q) {calls : List BuilderCall}
    (hcalls : ∀ call ∈ calls, call.selects = false) {s : String}
    (hs : (q.chain calls).queryString true = .ok s) (before after : List ClientStep)
    {d typed raw : Desk} (hd : d = (start c e).run before)
    (htyped : typed = d.run (.run (q.chain calls) :: after))
    (hraw : raw = d.run (.get table (.text s) row :: after)) :
    d.answers (.get table (.text s) row :: after) = d.answers (.run (q.chain calls) :: after) ∧
      raw.exchange = typed.exchange ∧ raw.traversals = typed.traversals ∧
      raw.streams.map Prod.snd = typed.streams.map Prod.snd := by
  have hconfig : d.client.config = c.config := by
    rw [hd]
    exact config_run (start c e) before
  have hbuilder : d.client.builder table row = .ok q := by
    rwa [Client.builder, hconfig]
  obtain ⟨hclient, hfault, hresults⟩ := Client.twin_run_get hbuilder hcalls hs
  have hself : d.Twin d := by
    refine ⟨rfl, rfl, rfl, ?_⟩
    rw [List.forall₂_same]
    exact fun stream _ => ⟨.refl _, rfl⟩
  have hboth : ((ClientStep.run (q.chain calls)).perform d).Twin
      ((ClientStep.get table (.text s) row).perform d) := hself.obtain hclient hresults
  obtain ⟨hanswers, htwin⟩ := twin_run hboth after
  subst htyped hraw
  refine ⟨?_, htwin.exchange, htwin.traversals, ?_⟩
  · rw [answers, answers, hanswers, ClientStep.answer, ClientStep.answer, hfault]
  · have hmemory := List.rel_map (P := Eq) (fun a b (h : Results.TwinStreams a b) => h.2.symm)
      htwin.streams
    rw [List.forall₂_eq_eq_eq] at hmemory
    exact hmemory.symm

/-- The results of the query with a marked parameter are read, beside a count. -/
def markedReading : List ClientStep :=
  [.traverse 0 .byPage, .advance 0 false, .count (.text "t") none, .read 0 false .items]

theorem Desk.run_agrees_get_marked :
    Client.newClient.builder (.text "t") .untyped = .ok (.all .untyped .camelCase (some "t")) ∧
      Client.markedQuery.queryString true = .ok "?x=1" ∧
      (requestsOf ((start Client.newClient Client.lateAnswer).run
        (.run Client.markedQuery :: markedReading)).exchange.events).map Request.url =
          ["https://ds.example.com/tables/t?x=1", "https://ds.example.com/tables/t?x=1",
            "https://ds.example.com/tables/t?$count=true&$top=1",
            "https://ds.example.com/tables/t?x=1"] ∧
      (start Client.newClient Client.lateAnswer).answers
          (.get (.text "t") (.text "?x=1") .untyped :: markedReading) =
        (start Client.newClient Client.lateAnswer).answers
          (.run Client.markedQuery :: markedReading) := by
  have hbuilder : Client.newClient.builder (.text "t") .untyped =
      .ok (.all .untyped .camelCase (some "t")) := rfl
  have hs : Client.markedQuery.queryString true = .ok "?x=1" := rfl
  have hcalls : ∀ call ∈ Client.markedCalls, call.selects = false := by
    intro call hcall
    rw [List.mem_singleton.mp hcall]
    rfl
  obtain ⟨hanswers, -⟩ := run_agrees_get Client.newClient Client.lateAnswer hbuilder hcalls hs []
    markedReading rfl rfl rfl
  refine ⟨hbuilder, hs, ?_, hanswers⟩
  decide +kernel

end PagedTables
