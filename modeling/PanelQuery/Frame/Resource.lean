import PanelQuery.Querier.Result
import PanelQuery.Text.Search

/-!
# Resources in records

A record that says of what kind the client or the server of a flow is gets columns for the resource that it belongs
to (`Record.withResources`): the kind, the identifier and the name, each looked up in the columns that the kind, or a
group of resources, stands for.
-/

namespace PanelQuery

/-- An end of a flow. -/
inductive FlowEnd where
  | client
  | server
  deriving DecidableEq, Repr

namespace FlowEnd

/-- The start of the columns that describe the end. -/
def start : FlowEnd → String
  | client => "client_"
  | server => "server_"

/-- The ending of the columns of its resources. -/
def ending : FlowEnd → String
  | client => "_0"
  | server => "_1"

/-- The groups of resources that are determined by themselves, in the order of looking them up. -/
def autoGroups : FlowEnd → List String
  | client => ["auto_instance", "auto_service"]
  | server => ["auto_service", "auto_instance"]

end FlowEnd

namespace Record

def has (r : Record) (column : String) : Bool := (Fields.get? column r).isSome

/-- The value of a column, null if there is none. -/
def value (r : Record) (column : String) : Json := (Fields.get? column r).getD .null

/-- The value of the first of two columns that there is. -/
def valueOf (r : Record) (column otherwise : String) : Json := (Fields.get? column r).getD (r.value otherwise)

/-- Whether a name is that of a level of groups, which has one digit. -/
def isGroupLevel (stem : String) : Bool :=
  match Text.dropStart? stem "resource_gl" with
  | some level =>
    match level.toList with
    | [c] => c.isDigit
    | _ => false
  | none => false

/-- The group of resources that the record has an identifier of. -/
def resourceGroup? (r : Record) (side : FlowEnd) : Option String :=
  let idEnding := "_id" ++ side.ending
  let auto := side.autoGroups.find? fun group => has r (group ++ idEnding)
  let level := r.findSome? fun (column, _) => (Text.dropEnd? column idEnding).filter isGroupLevel
  auto.or level

/-- The columns of the process at an end. -/
def processFields (r : Record) (side : FlowEnd) : Fields :=
  [(side.start ++ "resource_id", value r ("gprocess_id" ++ side.ending)),
    (side.start ++ "resource", value r ("gprocess" ++ side.ending))]

/-- The columns of the resource at an end. An address is identified by name and identifier together. -/
def groupFields (r : Record) (side : FlowEnd) : Fields :=
  let kind := ((value r (side.start ++ "node_type")).text?).getD ""
  let group := (resourceGroup? r side).getD kind
  let groupName := group ++ side.ending
  let groupId := group ++ "_id" ++ side.ending
  let (id, name) : Json × Json :=
    if kind == "ip" || kind == "internet_ip" then
      (.text ((value r groupName).shown ++ "(" ++ (value r groupId).shown ++ ")"), value r groupName)
    else (valueOf r (kind ++ "_id" ++ side.ending) groupId, valueOf r (kind ++ side.ending) groupName)
  [(side.start ++ "resource_type", .text kind), (side.start ++ "resource_id", id), (side.start ++ "resource", name)]

/-- The record with the columns of the resource at an end, if it says what is there. -/
def withResource (r : Record) (side : FlowEnd) : Record :=
  if !has r (side.start ++ "node_type") then r
  else
    let added := if has r ("gprocess" ++ side.ending) then processFields r side else groupFields r side
    added.foldl (fun r (column, value) => Fields.put column value r) r

/-- The record with the columns of the resources at both ends. -/
def withResources (r : Record) : Record := withResource (withResource r .client) .server

end Record
end PanelQuery
