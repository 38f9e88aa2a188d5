import PanelQuery.Context
import PanelQuery.Querier.Result

/-!
# Traces

The request that follows one span through the services it touched, and its answer.
-/

namespace PanelQuery

/-- What the panel puts in front of the identifiers of spans. -/
def idMark : String := "id-"

/-- A request to trace a span within a range of time. -/
structure TraceRequest where
  id : String
  range : TimeRange
  deriving DecidableEq, Repr

namespace TraceRequest

/-- The request for a span, whose identifier may carry the mark of the panel. -/
def of (id : String) (range : TimeRange) : TraceRequest := ⟨(Text.dropStart? id idMark).getD id, range⟩

def toJson (r : TraceRequest) : Json :=
  .object [("_id", .text r.id), ("DATABASE", .text "flow_log"), ("TABLE", .text "l7_flow_log"),
    ("MAX_ITERATION", .int 30), ("NETWORK_DELAY_US", .int 3000000), ("time_start", .int r.range.start),
    ("time_end", .int r.range.stop)]

end TraceRequest

/-- The services and spans of a trace. -/
structure FlowTrace where
  services : Json
  spans : List Record
  deriving Repr

namespace FlowTrace

/-- A field that is there and not null. -/
def present? (fields : Fields) (name : String) : Option Json :=
  (Fields.get? name fields).filter fun value => !value.isNull

/-- The trace in the data of a response. -/
def ofData (fields : Fields) : Except QuerierError FlowTrace :=
  match present? fields "services", present? fields "tracing" with
  | some services, some spans =>
    match Json.listOf Json.fields? spans with
    | some spans => .ok ⟨services, spans⟩
    | none => .error (.decode "invalid flow tracing spans")
  | _, _ => .error (.decode "flow tracing returned no data")

/-- The decoder of the data of a response, none of which is null. -/
def dataDecoder : Decoder Fields := .record ((·.getD []) <$> .maybe "DATA" (.dict .any))

/-- The trace in the body of a response. -/
def ofBody (body : String) : Except QuerierError FlowTrace :=
  match dataDecoder.read body with
  | .error _ => .error (.decode "invalid flow tracing response")
  | .ok fields => ofData fields

end FlowTrace
end PanelQuery
