import PagedTables.Proofs.Query.Chain
import PagedTables.Proofs.Service.Clients
import PagedTables.Proofs.Service.Fetching
import PagedTables.Proofs.Stream.Sharing

/-!
# The traffic of a paged query

The requests that a traversal of the results of a query sends. They fall into groups, one for each
fetch. The groups ask for the first page until a page has been decoded, and from then on for the one
that the last decoded page links to. Nothing is sent beyond a page without a link.
-/
namespace PagedTables

variable {κ ι : Type}

/-- What is meant by the sends of a fetch, given its target and its outcome. -/
abbrev GroupLaw (κ ι : Type) := Option Link → Except Fault (Page κ ι) → List Sent → Prop

/--
Groups of sends, one for each fetch after some pages. A fetch is for the page that the last page
before it links to, and for the first page if there is none; it is not made after a page without a
link.
-/
inductive Traffic (law : GroupLaw κ ι) :
    List (Page κ ι) → List (Fetched κ ι) → List (List Sent) → Prop
  | nil {ps : List (Page κ ι)} : Traffic law ps [] []
  | cons {ps : List (Page κ ι)} {f : Fetched κ ι} {group : List Sent} {log : List (Fetched κ ι)}
      {groups : List (List Sent)}
      (hopen : ∀ p ∈ ps, p.next ≠ none) (htarget : f.target = ps.getLast?.bind Page.next)
      (hgroup : law f.target f.outcome group) (hrest : Traffic law (ps ++ pagesOf [f]) log groups) :
      Traffic law ps (f :: log) (group :: groups)

/-- Every fetch sends a group of requests that is subject to a law. -/
def SendsBy (law : GroupLaw κ ι) (fetch : Fetch Exchange κ ι) : Prop :=
  ∀ target e, ∃ sent, e.Sends (fetch target e).2 sent ∧ law target (fetch target e).1 sent

namespace Traffic

variable {law : GroupLaw κ ι} {ps : List (Page κ ι)}

theorem append
    {log log' : List (Fetched κ ι)} {groups groups' : List (List Sent)}
    (h : Traffic law ps log groups) (h' : Traffic law (ps ++ pagesOf log) log' groups') :
    Traffic law ps (log ++ log') (groups ++ groups') := by
  induction h with
  | nil => simpa using h'
  | @cons ps f group log groups hopen htarget hgroup _ ih =>
      refine .cons hopen htarget hgroup (ih ?_)
      rwa [List.append_assoc, ← pagesOf_append]

end Traffic

section Runs

variable {law : GroupLaw κ ι} {fetch : Fetch Exchange κ ι} {s s' : Scene Exchange κ ι}
  {new : List (Fetched κ ι)} {ps : List (Page κ ι)}

/-- What some fetches sent, in groups. -/
def Grouped (law : GroupLaw κ ι) (ps : List (Page κ ι)) (e e' : Exchange)
    (new : List (Fetched κ ι)) : Prop :=
  ∃ groups, e.Sends e' groups.flatten ∧ Traffic law ps new groups

theorem Grouped.nil (e : Exchange) : Grouped law ps e e [] :=
  ⟨[], .refl e, .nil⟩

theorem Grouped.append {e e' e'' : Exchange} {new' : List (Fetched κ ι)}
    (h : Grouped law ps e e' new) (h' : Grouped law (ps ++ pagesOf new) e' e'' new') :
    Grouped law ps e e'' (new ++ new') := by
  obtain ⟨groups, hsends, htraffic⟩ := h
  obtain ⟨groups', hsends', htraffic'⟩ := h'
  refine ⟨groups ++ groups', ?_, htraffic.append htraffic'⟩
  rw [List.flatten_append]
  exact hsends.append hsends'

/-- A step sends nothing or one group. -/
theorem PageCursor.Step.grouped
    (hfetch : SendsBy law fetch) {cancelled : Bool} {c after : PageCursor}
    {result : Advance (Page κ ι)} (h : Step fetch cancelled c s result after s' new)
    (hc : c.Follows ps) : Grouped law ps s.outside s'.outside new := by
  have hone (hend : c.isAtEnd = false) :
      Grouped law ps s.outside (fetch c.target s.outside).2
        [⟨c.target, (fetch c.target s.outside).1⟩] := by
    obtain ⟨sent, hsends, hsent⟩ := hfetch c.target s.outside
    refine ⟨[sent], ?_, .cons (hc.isAtEnd_eq_false_iff.mp hend) hc.target hsent .nil⟩
    rwa [List.flatten_singleton]
  cases h with
  | done => exact .nil _
  | cancelled => exact .nil _
  | page hend _ hanswer =>
      have := hone hend
      rwa [hanswer] at this
  | error hend _ hanswer =>
      have := hone hend
      rwa [hanswer] at this

theorem ItemCursor.Search.grouped
    (hfetch : SendsBy law fetch) {cancelled : Bool} {fuel : Nat} {c after : ItemCursor ι}
    {result : Advance ι} (h : Search fetch cancelled fuel c s result after s' new)
    (hc : c.pages.Follows ps) : Grouped law ps s.outside s'.outside new := by
  induction h generalizing ps with
  | item => exact .nil _
  | abandoned => exact .nil _
  | page hstep _ ih => exact (hstep.grouped hfetch hc).append (ih (hstep.follows hc))
  | done hstep => exact hstep.grouped hfetch hc
  | failed hstep => exact hstep.grouped hfetch hc

namespace Traversal

/-- The cursor on pages of a traversal. -/
def cursor : Traversal ι → PageCursor
  | byPage c => c
  | byItem c => c.pages

/-- A traversal that is advanced again and again, and the scene afterwards. -/
def run {σ : Type} (fetch : Fetch σ κ ι) :
    List Nat → Traversal ι → Scene σ κ ι → Traversal ι × Scene σ κ ι
  | [], t, s => (t, s)
  | limit :: rest, t, s =>
    run fetch rest (t.advance fetch limit s).2.1 (t.advance fetch limit s).2.2

theorem Moves.grouped
    (hfetch : SendsBy law fetch) {limit : Nat} {t after : Traversal ι} {outcome : Outcome κ ι}
    (h : Moves fetch limit t s outcome after s' new) (ht : t.cursor.Follows ps) :
    Grouped law ps s.outside s'.outside new ∧ after.cursor.Follows (ps ++ pagesOf new) := by
  cases h with
  | byPage hstep => exact ⟨hstep.grouped hfetch ht, hstep.follows ht⟩
  | byItem hsearch => exact ⟨hsearch.grouped hfetch ht, hsearch.follows ht⟩

/-- However often a traversal is advanced, what it sends falls into the groups of its fetches. -/
theorem grouped_run
    (hfetch : SendsBy law fetch) (limits : List Nat) (t : Traversal ι) (s : Scene Exchange κ ι)
    (ht : t.cursor.Follows ps) :
    ∃ after s' new, t.run fetch limits s = (after, s') ∧
      (∀ log, t.run (noted fetch) limits (s.noted log) = (after, s'.noted (log ++ new))) ∧
      Grouped law ps s.outside s'.outside new := by
  -- The invariant is where the cursor stands: it determines the target of the next group.
  induction limits generalizing t s ps with
  | nil => exact ⟨t, s, [], rfl, fun log => by rw [List.append_nil]; rfl, .nil _⟩
  | cons limit rest ih =>
      obtain ⟨outcome, after, s', new, hadvance, hmoves, hnoted⟩ := t.moves_advance fetch limit s
      obtain ⟨hgrouped, hfollows⟩ := hmoves.grouped hfetch ht
      obtain ⟨last, s'', later, hrun, hlog, hlater⟩ := ih after s' hfollows
      refine ⟨last, s'', new ++ later, ?_, fun log => ?_, hgrouped.append hlater⟩
      · rw [run, hadvance]
        exact hrun
      · rw [run, hnoted, ← List.append_assoc]
        exact hlog (log ++ new)

end Traversal

end Runs

namespace Client

variable {c c' : Client}

theorem builder_eq_ok {table : Value} {row : RowType} {q : TableQuery}
    (h : c.builder table row = .ok q) :
    ∃ name, table.asText? = some name ∧ Text.allBlank name = false ∧
      q = .all row c.config.naming (some name) := by
  rw [builder] at h
  split at h
  · next name hname =>
      cases h
      obtain ⟨htext, hfilled⟩ := Option.filter_eq_some_iff.mp hname
      exact ⟨name, htext, by simpa using hfilled, rfl⟩
  · cases h

/-- The law of the groups that a transport sends for a query on a table. -/
def groupLaw (t : Transport) (bound : Nat) (decode : Decoder) (table query : String) :
    GroupLaw Int Item := fun target answer sent =>
  t.FetchGroup bound decode (Transport.addressOf t.baseUrl table query target) answer sent

theorem sendsBy_source
    {t : Transport} {i : Nat} (hused : c'.transports[i]? = some t) (hown : t.IsOf c)
    {table : String} (htable : Text.allBlank table = false) (s : String) (decode : Decoder) :
    SendsBy
      (groupLaw t (Sender.attemptBound c.config.attempts) decode table (Transport.withoutMarks s))
      (c'.source ⟨i, .text table, .text s, decode⟩).fetch := by
  intro target e
  have hfetch (target : Target) :
      c'.fetch i decode (.text table) target e = t.fetchPage decode (.text table) target e := by
    rw [fetch, hused]
  cases target with
  | none =>
      have hsends := t.sends_fetchPage hown.attempts decode (.text table) (.query (.text s)) e
      rw [Transport.pageUrl_query t htable, ← hfetch] at hsends
      exact hsends
  | some link =>
      have hsends := t.sends_fetchPage hown.attempts decode (.text table) (.link link) e
      rw [Transport.pageUrl_link, ← hfetch] at hsends
      exact hsends

/--
What a traversal of the results of a query sends, however often it is advanced and whatever is
answered, are the groups of its fetches, and nothing else. They go to the address of the table with
the query string, without question marks in front of it, until a page has been decoded, and from
then on to where the link of the last page leads.
-/
theorem traffic_of_query
    (hc : c.Reachable) {table : Value} {row : RowType} {q : TableQuery}
    (hq : c.builder table row = .ok q) (calls : List BuilderCall) {results : Results}
    (hrun : c.run (q.chain calls) = (.ok results, c'))
    (stride : Stride) (limits : List Nat) (e : Exchange) :
    ∃ name s t e' log groups,
      table.asText? = some name ∧ (q.chain calls).queryString true = .ok s ∧ t.IsOf c ∧
      (Transport.withoutMarks s = s ↔ s.toList.head? ≠ some '?') ∧
      ((Traversal.start stride).run (c'.source results).fetch limits ⟨.fresh, e⟩).2.outside = e' ∧
      ((Traversal.start stride).run (noted (c'.source results).fetch) limits
        ⟨.fresh, (e, [])⟩).2.outside = (e', log) ∧
      e.Sends e' groups.flatten ∧
      Traffic (groupLaw t (Sender.attemptBound c.config.attempts) results.decode name
        (Transport.withoutMarks s)) [] log groups := by
  obtain ⟨name, hname, hfilled, rfl⟩ := builder_eq_ok hq
  obtain ⟨name', s, decode, i, hname', hs, -, htransport, rfl⟩ := run_eq_ok hrun
  rw [TableQuery.table_chain] at hname'
  cases hname'
  obtain ⟨-, -, t, hused, hown⟩ := sound_transport hc.sound htransport
  have hstart : (Traversal.start stride : Traversal Item).cursor.Follows
      ([] : List (Page Int Item)) := by
    cases stride <;> exact PageCursor.follows_start
  obtain ⟨after, s', log, hrun, hnoted, groups, hsends, htraffic⟩ :=
    Traversal.grouped_run (sendsBy_source hused hown hfilled s decode) limits (.start stride)
      ⟨.fresh, e⟩ hstart
  have hlog := hnoted []
  rw [List.nil_append] at hlog
  exact ⟨name, s, t, s'.outside, log, groups, hname, hs, hown,
    Transport.withoutMarks_eq_self_iff s, congrArg (fun answer => answer.2.outside) hrun,
    congrArg (fun answer => answer.2.outside) hlog, hsends, htraffic⟩

/-- A client that has done nothing yet. -/
def newClient : Client :=
  ⟨"https://ds.example.com", .default, false, [], none, none⟩

/-- A parameter whose name begins with a question mark. -/
def markedCalls : List BuilderCall :=
  [.withParameter (.text "?x") (.text "1")]

/-- The query with that parameter. -/
def markedQuery : TableQuery :=
  (TableQuery.all .untyped .camelCase (some "t")).chain markedCalls

/-- The client once it has a transport. -/
def busyClient : Client :=
  { newClient with
    transports := [⟨"https://ds.example.com", .default, false,
      ⟨.int 5, .float (.ofRatio false 1 2), .null, none⟩⟩]
    current := some 0 }

/-- The results of the query. -/
def markedResults : Results :=
  ⟨0, .text "t", .text "?x=1", (Schema.untyped .camelCase).decoder⟩

/-- A request is lost, and a page without items and without a link follows. -/
def lateAnswer : Exchange :=
  .start [.failure .timeout "too late", .response ⟨200, [], "\x7b\"items\": []\x7d"⟩] [] (.int 0)
    systemSleep

theorem traffic_of_query_marked :
    newClient.Reachable ∧
      newClient.builder (.text "t") .untyped = .ok (.all .untyped .camelCase (some "t")) ∧
      newClient.run markedQuery = (.ok markedResults, busyClient) ∧
      ∃ t e' log groups, t.IsOf newClient ∧
        ((Traversal.start .byItem).run (noted (busyClient.source markedResults).fetch) [3, 3]
          ⟨.fresh, (lateAnswer, [])⟩).2.outside = (e', log) ∧
        lateAnswer.Sends e' groups.flatten ∧
        Traffic (groupLaw t 5 markedResults.decode "t" "x=1") [] log groups := by
  have hmake : Client.make (.text "https://ds.example.com") .default false = .ok newClient := rfl
  have hbuilder : newClient.builder (.text "t") .untyped =
      .ok (.all .untyped .camelCase (some "t")) := rfl
  have hrun : newClient.run markedQuery = (.ok markedResults, busyClient) := rfl
  obtain ⟨name, s, t, e', log, groups, hname, hs, hown, -, -, hlog, hsends, htraffic⟩ :=
    traffic_of_query (.made hmake) hbuilder markedCalls hrun .byItem [3, 3] lateAnswer
  cases hname
  have hquery : markedQuery.queryString true = .ok "?x=1" := rfl
  cases Except.ok.inj (hs.symm.trans hquery)
  exact ⟨.made hmake, hbuilder, hrun, t, e', log, groups, hown, hlog, hsends, htraffic⟩

/-- A query string that begins with a question mark is not sent as it is. -/
theorem traffic_markedQuery :
    newClient.run markedQuery = (.ok markedResults, busyClient) ∧
      markedQuery.queryString true = .ok "?x=1" ∧
      (requestsOf ((Traversal.start .byPage).run (busyClient.source markedResults).fetch [0]
        ⟨.fresh, lateAnswer⟩).2.outside.events).map Request.url =
          ["https://ds.example.com/tables/t?x=1", "https://ds.example.com/tables/t?x=1"] ∧
      "https://ds.example.com/tables/t?x=1" ≠
        "https://ds.example.com/tables/t" ++ "?" ++ "?x=1" := by
  refine ⟨rfl, rfl, ?_, by decide⟩
  decide +kernel

end Client

end PagedTables
