import PanelQuery.Http.MediaType
import PanelQuery.Http.Target
import PanelQuery.Json.Decoder

/-!
# Requests and responses

A request as it arrives, and the response to it. `Request.json` reads the body of a request as JSON; what keeps a
request from being understood is a `Rejection`, which has a status and no JSON body.
-/

namespace PanelQuery.Http

/-- A request. -/
structure Request where
  method : String
  target : Target
  contentType : Option String
  body : String
  deriving Repr

/-- A response; its body is JSON or none. -/
structure Response where
  status : Nat
  body : Option Json
  deriving Repr

/-- Why a request is not understood. -/
inductive Rejection where
  /-- No route has that path. -/
  | unknownPath
  /-- The route of that path has another method. -/
  | wrongMethod
  /-- The body is not said to be JSON. -/
  | unsupportedMediaType
  /-- The body, the path or the query string cannot be read. -/
  | malformed
  /-- The body is JSON of another shape. -/
  | misshapen
  deriving DecidableEq, Repr

/-- The rejection of a body with a fault. -/
def Rejection.ofFault : Json.Fault → Rejection
  | .malformed => malformed
  | .misshapen => misshapen

/-- The status of the response to a request that is not understood. -/
def Rejection.status : Rejection → Nat
  | unknownPath => 404
  | wrongMethod => 405
  | unsupportedMediaType => 415
  | malformed => 400
  | misshapen => 422

/-- The response to a request that is not understood. -/
def Rejection.response (r : Rejection) : Response := ⟨r.status, none⟩

namespace Request

/-- The request of these parts, each of which has to be well-formed. -/
def of? (method target : String) (contentType : Option String) (body : String) : Option Request := do
  let target ← Target.read? target
  if method.isEmpty || !method.toList.all isTokenChar then none
  else if !contentType.all isHeaderText then none
  else return { method, target, contentType, body }

/-- Whether the body is said to be JSON. -/
def isJson (r : Request) : Bool := (r.contentType.bind MediaType.ofHeader?).any MediaType.isJson

/-- What the body stands for. -/
def json (d : Decoder α) (r : Request) : Except Rejection α :=
  if !r.isJson then .error .unsupportedMediaType else (d.read r.body).mapError Rejection.ofFault

end Request
end PanelQuery.Http
