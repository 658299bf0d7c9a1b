import PagedTables.Service.Transport

/-!
# Clients

A client makes queries on the tables of a service and runs them. Transports are made when they are
needed and used until the client is closed; results go on with the transport that they were made
with. A client that has been entered hands its session to the transports that it makes from then
on. Closing gives up the transport and the session, and the client can be used again afterwards.
The settings and the endpoint are looked at again when a transport is made, which can fail.
-/
namespace PagedTables

/-- A client of a service. -/
structure Client where
  endpoint : String
  config : Config
  usesTokens : Bool
  /-- The transports made so far; results know theirs by its place. -/
  transports : List Transport
  /-- The place of the transport that is in use. -/
  current : Option Nat
  session : Option Session

/-- Results of a query: where their pages come from, and what becomes of the items. -/
structure Results where
  transport : Nat
  table : Value
  /-- The query string of the first page. -/
  query : Value
  decode : Decoder

namespace TableQuery

/-- The query that only asks how many items fulfil the conditions of another one. -/
def counting (q : TableQuery) : TableQuery :=
  { row := q.row
    naming := q.naming
    into := .untyped
    table := none
    spec := { QuerySpec.all with
      filter := q.spec.filter
      includeDeleted := q.spec.includeDeleted
      parameters := q.spec.parameters
      includeCount := true
      take := limit? (.int 1) } }

end TableQuery

namespace Client

/-- A client of the service at an endpoint. -/
def make (endpoint : Value) (config : Config) (usesTokens : Bool) : Except Fault Client := do
  return ⟨← Transport.address .endpoint endpoint, config, usesTokens, [], none, none⟩

/-- Opens a session, unless one is open. -/
def enter (c : Client) (e : Exchange) : Client × Exchange :=
  match c.session with
  | some _ => (c, e)
  | none =>
    let (s, e) := e.openSession
    ({ c with session := some s }, e)

/-- Gives up the transport in use. -/
def closeTransport (c : Client) (e : Exchange) : Client × Exchange :=
  match c.current.bind fun i => (c.transports[i]?).map (i, ·) with
  | some (i, t) =>
    let (t, e) := t.close e
    ({ c with transports := c.transports.set i t, current := none }, e)
  | none => ({ c with current := none }, e)

/-- Gives up the session. -/
def closeSession (c : Client) (e : Exchange) : Client × Exchange :=
  match c.session with
  | some s => ({ c with session := none }, e.closeSession s)
  | none => (c, e)

/-- Gives up the transport and the session. -/
def close (c : Client) (e : Exchange) : Client × Exchange :=
  let (c, e) := c.closeTransport e
  c.closeSession e

/-- The transport in use, made if there is none. -/
def transport (c : Client) : Except Fault (Nat × Client) :=
  match c.current with
  | some i => .ok (i, c)
  | none =>
    (Transport.make (.text c.endpoint) c.config c.usesTokens c.session).map fun t =>
      (c.transports.length,
        { c with transports := c.transports ++ [t], current := some c.transports.length })

/-- A query for the items of a table. -/
def builder (c : Client) (table : Value) (row : RowType) : Except Fault TableQuery :=
  match TableQuery.filledText? table with
  | some name => .ok (.all row c.config.naming (some name))
  | none => .error (.required .table)

/-- The results of a query on a table. -/
def execute (c : Client) (table : Value) (q : TableQuery) : Except Fault Results × Client :=
  match q.queryString true, q.decoder with
  | .error fault, _ => (.error fault, c)
  | _, .error fault => (.error fault, c)
  | .ok query, .ok decode =>
    match c.transport with
    | .error fault => (.error fault, c)
    | .ok (i, c) => (.ok ⟨i, table, .text query, decode⟩, c)

/-- The results of a query that was made for a table. -/
def run (c : Client) (q : TableQuery) : Except Fault Results × Client :=
  match q.table with
  | some table => c.execute (.text table) q
  | none => (.error .unbound, c)

/-- The results of a query string on a table. -/
def get (c : Client) (table query : Value) (row : RowType) : Except Fault Results × Client :=
  match row.schema c.config.naming with
  | .error fault => (.error fault, c)
  | .ok schema =>
    match c.transport with
    | .error fault => (.error fault, c)
    | .ok (i, c) =>
      ((Transport.bareQuery query).map fun query => ⟨i, table, .text query, schema.decoder⟩, c)

/-- The page at a target, fetched by one of the transports. -/
def fetch {ι : Type} (c : Client) (i : Nat) (decode : JsonObject → Except Fault ι)
    (table : Value) (target : Target) (e : Exchange) : Except Fault (Page Int ι) × Exchange :=
  match c.transports[i]? with
  | some t => t.fetchPage decode table target e
  | none => (.error .noAnswer, e)

/-- The count that a page carries. -/
def countOf {ι : Type} (table : Value) (p : Page Int ι) : Except Fault Int :=
  match p.count with
  | some n => .ok n
  | none => .error (.noCount table.toText)

/-- The number of items of a table that fulfil the conditions of a query. -/
def count (c : Client) (table : Value) (q : Option TableQuery) (e : Exchange) :
    Except Fault Int × Client × Exchange :=
  let q := q.getD (.all .untyped c.config.naming none)
  match c.transport with
  | .error fault => (.error fault, c, e)
  | .ok (i, c) =>
    match q.counting.queryString true with
    | .error fault => (.error fault, c, e)
    | .ok query =>
      match c.fetch i Decoder.plain table (.query (.text query)) e with
      | (.ok p, e) => (countOf table p, c, e)
      | (.error fault, e) => (.error fault, c, e)

/-- The source of the pages of some results. -/
def source (c : Client) (r : Results) : PageSource Exchange Int Item where
  fetch target := c.fetch r.transport r.decode r.table
    (match target with
      | none => .query r.query
      | some link => .link link)
  supply e := e.replies.length
  supply_lt target e e' p h := by
    unfold fetch at h
    split at h
    · exact Transport.replies_length_of_fetchPage h
    · simp at h

end Client

end PagedTables
