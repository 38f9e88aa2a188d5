import PanelQuery.Http.Header
import PanelQuery.Querier.Dialogue
import PanelQuery.Url.Basic

/-!
# Calls over HTTP

How the calls of a dialogue become requests, and responses their answers. `Client.exchange` answers calls by whatever
sends requests, so that a dialogue can be run against it.
-/

namespace PanelQuery

/-- Where the services that are asked are found. -/
structure ClientConfig where
  querier : Url
  /-- The query compiler, without which nothing is compiled. -/
  compiler : Option Url
  /-- The tracing service, if it is not under the address of the querier. -/
  tracing : Option Url
  token : Option String
  deriving Repr

/-- What calls need to become requests. -/
structure Client where
  query : Url
  tracing : Url
  compiler : Option Url
  /-- Not empty. -/
  token : Option String
  deriving Repr

/-- The data of a request. -/
inductive Outgoing.Body where
  | form (fields : List (String × String))
  | json (value : Json)
  deriving Repr

/-- A request to another service. -/
structure Outgoing where
  url : Url
  headers : List (String × String)
  body : Outgoing.Body
  deriving Repr

/-- A response of another service. -/
structure Incoming where
  status : Nat
  body : String
  deriving DecidableEq, Repr

namespace Incoming

/-- The data of a response; the statuses of no content and of no change have none. -/
def content (r : Incoming) : String := if r.status = 204 || r.status = 304 then "" else r.body

/-- Whether the status is one of success. -/
def isSuccess (r : Incoming) : Bool := 200 ≤ r.status && r.status < 300

/-- Whether the status puts the fault on the request. -/
def isRefusal (r : Incoming) : Bool := 400 ≤ r.status && r.status < 500

/-- What is read off the body of a successful response. -/
def read (decode : String → Except QuerierError α) (r : Incoming) : Except QuerierError α :=
  if r.isSuccess then decode r.content else .error (.status r.status r.content)

/-- The compiled query of a response; a refusal is the compiler's. -/
def readCompiled (r : Incoming) : Except QuerierError CompiledQuery :=
  if r.isRefusal then .error (.compile r.content) else r.read CompiledQuery.ofBody

end Incoming

namespace Client

/-- Where statements are executed, under the address of the querier. -/
def queryPath : List String := ["v1", "query", ""]

/-- Where spans are traced, under the address of the tracing service. -/
def tracingPath : List String := ["trace", "v1", "stats", "querier", "L7FlowTracing"]

/-- The client of a configuration, each of whose addresses has to have something under it. -/
def of (c : ClientConfig) : Except Url.Fault Client := do
  let query ← c.querier.under? queryPath
  let tracing ← (c.tracing.getD c.querier).under? tracingPath
  return { query, tracing, compiler := c.compiler, token := c.token.filter (!·.isEmpty) }

/-! ## Requests -/

/-- The header with the token of the client, if the token can be sent in one. -/
def authorization (c : Client) : Except QuerierError (List (String × String)) :=
  match c.token with
  | none => .ok []
  | some token =>
    if Http.isHeaderText token then .ok [("Authorization", Http.headerValue ("Bearer " ++ token))]
    else .error .transport

/-- The user on whose behalf spans are traced. -/
def userHeaders : List (String × String) := [("X-User-Id", "1"), ("X-User-Type", "1")]

/-- The fields of a statement; apart from the statement itself, those that are empty are left out. -/
def statementFields (s : Statement) : List (String × String) :=
  ("sql", s.sql) ::
    ([("db", s.db), ("data_precision", s.dataPrecision), ("datasource", s.datasource)].filter (!·.2.isEmpty))

def outgoing (c : Client) : Call → Except QuerierError Outgoing
  | .execute statement => do
    return ⟨c.query, ← c.authorization, .form (statementFields statement)⟩
  | .compile payload =>
    match c.compiler with
    | some url => do
      return ⟨url, ← c.authorization, .json payload.toJson⟩
    | none => .error (.compile "no sql compiler endpoint configured")
  | .trace request => do
    return ⟨c.tracing, userHeaders ++ (← c.authorization), .json request.toJson⟩

/-! ## Answers -/

/-- The answer in a response to a call. -/
def answerOf : (c : Call) → Incoming → c.Answer
  | .execute _, r => r.read QueryResult.ofBody
  | .compile _, r => r.readCompiled
  | .trace _, r => r.read FlowTrace.ofBody

/-- Answers a call by sending a request; where no response comes back there is no answer. -/
def exchange (client : Client) (send : Outgoing → σ → Option Incoming × σ) (c : Call) (s : σ) : c.Answer × σ :=
  match client.outgoing c with
  | .error error => (.error error, s)
  | .ok request =>
    match send request s with
    | (some response, s) => (answerOf c response, s)
    | (none, s) => (.error .transport, s)

end Client
end PanelQuery
