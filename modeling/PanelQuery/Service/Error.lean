import PanelQuery.Querier.Error
import PanelQuery.Validation

/-!
# Failures of the service

What the service answers when it cannot do what it is asked: a status, and an object with the kind and the text of
the failure.
-/

namespace PanelQuery

/-- Why a request fails. -/
inductive ServiceError where
  | badRequest (reason : String)
  | invalid (fault : FormError)
  | querier (error : QuerierError)
  | notFound (reason : String)
  | config (reason : String)
  | internal (reason : String)
  deriving DecidableEq, Repr

namespace ServiceError

def status : ServiceError → Nat
  | badRequest _ | invalid _ => 400
  | notFound _ => 404
  | querier (.compile _) => 422
  | querier _ => 502
  | config _ | internal _ => 500

def kind : ServiceError → String
  | badRequest _ => "bad_data"
  | invalid _ => "validation"
  | notFound _ => "not_found"
  | querier (.compile _) => "compile_error"
  | querier _ => "querier_error"
  | config _ => "config"
  | internal _ => "internal"

def message : ServiceError → String
  | badRequest reason | notFound reason | config reason | internal reason => reason
  | invalid fault => fault.message
  | querier error => error.message

/-- The body of the response. -/
def toJson (e : ServiceError) : Json :=
  .object [("status", .text "error"), ("errorType", .text e.kind), ("error", .text e.message)]

end ServiceError
end PanelQuery
