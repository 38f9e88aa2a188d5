import PanelQuery.Querier.Client
import PanelQuery.Service.Basic
import PanelQuery.Url.Read

/-!
# Starting

The configuration of the service, and the service that it starts: a client of the other services, and a first dialogue
that asks for the databases, whatever the answer.
-/

namespace PanelQuery

/-- The configuration of the service. -/
structure ServiceConfig where
  client : ClientConfig
  statementCapacity : Nat
  tableCapacity : Nat
  deriving Repr

/-- The URL that an option gives, which has to be one of the web. -/
def webUrl (option raw : String) : Except ServiceError Url :=
  match Url.read raw with
  | .error fault => .error (.config ("invalid --" ++ option ++ " \x60" ++ raw ++ "\x60: " ++ fault.message))
  | .ok url =>
    if url.scheme == "http" || url.scheme == "https" then .ok url
    else .error (.config ("--" ++ option ++ " must use http or https, got \x60" ++ url.scheme ++ "\x60"))

def Client.connect (c : ClientConfig) : Except ServiceError Client :=
  match Client.of c with
  | .ok client => .ok client
  | .error fault => .error (.config ("failed to build querier client: " ++ (QuerierError.url fault.message).message))

/-- The unused service, after it has asked for the databases. -/
def Service.start (statementCapacity tableCapacity : Nat) : Dialogue Service := do
  let _ ← Dialogue.databases.run
  return .new statementCapacity tableCapacity

end PanelQuery
