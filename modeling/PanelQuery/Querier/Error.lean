/-!
# Failures of the querier

What can go wrong when the services behind this one are asked.
-/

namespace PanelQuery

/-- Why the querier or the query compiler gave no answer. -/
inductive QuerierError where
  /-- The compiler refused a payload. -/
  | compile (reason : String)
  /-- No response came back. -/
  | transport
  /-- A response other than success. -/
  | status (code : Nat) (body : String)
  /-- A response that cannot be read. -/
  | decode (reason : String)
  /-- An endpoint that is no address. -/
  | url (reason : String)
  deriving DecidableEq, Repr

def QuerierError.message : QuerierError → String
  | compile reason => "sql compiler rejected payload: " ++ reason
  | transport => "querier request failed"
  | status code body => "querier responded with status " ++ toString code ++ ": " ++ body
  | decode reason => "unexpected querier response: " ++ reason
  | url reason => "invalid endpoint url: " ++ reason

end PanelQuery
