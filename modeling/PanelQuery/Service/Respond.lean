import PanelQuery.Service.Basic
import PanelQuery.Service.Route

/-!
# Responses

The response to each request: `Service.respond` reads the request, performs what it asks for and encodes the result.
A failure keeps the status and the text of its cause; a request that is not understood makes no calls and changes
nothing.
-/

namespace PanelQuery

/-! ## Results in JSON -/

def framesToJson (refId : String) (frames : List Frame) : Json :=
  .object [("refId", .text refId), ("frames", .array (frames.map Frame.toJson))]

def Action.EditorOptions.toJson (o : Action.EditorOptions) : Json :=
  .object [("databases", .texts o.databases), ("tables", .texts o.tables), ("clauses", clauseOptionsToJson o.clauses),
    ("functions", .array (o.functions.map FunctionOption.toJson)),
    ("subFunctions", .array (o.subFunctions.map selfLabelled))]

def Action.ValueOption.toVariableJson (o : Action.ValueOption) : Json :=
  .object [("text", .text o.text), ("value", o.value)]

def Action.ValueOption.toTagJson (o : Action.ValueOption) : Json :=
  .object [("label", .text o.text), ("value", o.value)]

/-! ## Requests -/

/-- Does what is asked for; the result is the body of the response. -/
def ServiceRequest.perform (now : Int) : ServiceRequest → Action Json
  | query request => framesToJson request.refId <$> Action.runQuery now request
  | payload request => Payload.toJson <$> Action.queryPayload now request
  | statement requestId refId => do
    return .object [("sql", .text (← Action.keptStatement requestId refId))]
  | relationship request => do
    return .object (← Action.relationship request).toFields
  | editorOptions request => Action.EditorOptions.toJson <$> Action.editorOptions request
  | editorEdit request => Form.toJson <$> Action.editForm request
  | variableOptions request => do
    return .array ((← Action.variableOptions request).map Action.ValueOption.toVariableJson)
  | tagValues tag request => do
    return .array ((← Action.searchTag tag request).map Action.ValueOption.toTagJson)
  | health => do
    return .object [("status", .text "ok"), ("databases", .int (← Action.health))]

/-- The response with the result of an action. -/
def responseOf : Except ServiceError Json → Http.Response
  | .ok value => ⟨200, some value⟩
  | .error error => ⟨error.status, some error.toJson⟩

namespace Service

/-- The response to what is asked for, and the state of the service afterwards. -/
def answer (now : Int) (request : ServiceRequest) (s : Service) : Dialogue (Http.Response × Service) := do
  let (result, s) ← (request.perform now).perform s
  return (responseOf result, s)

/-- The response to a request, and the state of the service afterwards. A request for the head of a response gets no
body. -/
def respond (now : Int) (request : Http.Request) (s : Service) : Dialogue (Http.Response × Service) :=
  match ServiceRequest.ofHttp request with
  | .error rejection => return (rejection.response, s)
  | .ok asked => do
    let (response, s) ← s.answer now asked
    return (if request.method == "HEAD" then { response with body := none } else response, s)

end Service
end PanelQuery
