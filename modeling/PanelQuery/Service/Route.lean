import PanelQuery.Http.Message
import PanelQuery.Service.Request
import PanelQuery.Text.Percent

/-!
# Routes

Which requests the service answers: `Route.ofSegments?` finds the route of a path, and `ServiceRequest.ofHttp` reads
what is asked for off the parameters in the path, the query string or the body.
-/

namespace PanelQuery

/-- A route, with the parameters in its path, still percent-encoded. -/
inductive Route where
  | query
  | payload
  | statement (requestId refId : String)
  | relationship
  | editorOptions
  | editorEdit
  | variableOptions
  | tagValues (tag : String)
  | health
  deriving DecidableEq, Repr

namespace Route

/-- The route of a path under the root of the service. -/
def ofServicePath? : List String → Option Route
  | ["query"] => some query
  | ["query", "params"] => some payload
  | ["query", "sql", requestId, refId] => if refId.isEmpty then none else some (statement requestId refId)
  | ["relationship"] => some relationship
  | ["editor", "options"] => some editorOptions
  | ["editor", "edit"] => some editorEdit
  | ["variables", "query"] => some variableOptions
  | ["tags", tag, "values"] => some (tagValues tag)
  | ["health"] => some health
  | _ => none

def ofSegments? : List String → Option Route
  | "" :: "api" :: "v1" :: rest => ofServicePath? rest
  | _ => none

/-- Whether the request has no body. -/
def isRead : Route → Bool
  | statement _ _ | tagValues _ | health => true
  | _ => false

def admits (r : Route) (method : String) : Bool :=
  if r.isRead then method == "GET" || method == "HEAD" else method == "POST"

end Route

/-- What the service is asked for. -/
inductive ServiceRequest where
  | query (request : QueryRequest)
  | payload (request : QueryRequest)
  | statement (requestId refId : String)
  | relationship (request : RelationshipRequest)
  | editorOptions (request : OptionsRequest)
  | editorEdit (request : EditRequest)
  | variableOptions (request : VariableRequest)
  | tagValues (tag : String) (request : TagSearch)
  | health
  deriving Repr

namespace ServiceRequest

/-- What was decoded, unless it could not be read. -/
def orMalformed (decoded : Option α) : Except Http.Rejection α := decoded.elim (.error .malformed) .ok

/-- What a request to a route asks for. -/
def ofRoute (r : Http.Request) : Route → Except Http.Rejection ServiceRequest
  | .query => query <$> r.json QueryRequest.decoder
  | .payload => payload <$> r.json QueryRequest.decoder
  | .statement requestId refId => do
    let requestId ← orMalformed (Text.percentDecode? requestId)
    let refId ← orMalformed (Text.percentDecode? refId)
    return statement requestId refId
  | .relationship => relationship <$> r.json RelationshipRequest.decoder
  | .editorOptions => editorOptions <$> r.json OptionsRequest.decoder
  | .editorEdit => editorEdit <$> r.json EditRequest.decoder
  | .variableOptions => variableOptions <$> r.json VariableRequest.decoder
  | .tagValues tag => do
    let tag ← orMalformed (Text.percentDecode? tag)
    let search ← orMalformed (TagSearch.ofPairs? (Text.formPairs r.target.query))
    return tagValues tag search
  | .health => .ok health

/-- What a request asks for. -/
def ofHttp (r : Http.Request) : Except Http.Rejection ServiceRequest :=
  match Route.ofSegments? r.target.segments with
  | none => .error .unknownPath
  | some route => if route.admits r.method then ofRoute r route else .error .wrongMethod

end ServiceRequest
end PanelQuery
