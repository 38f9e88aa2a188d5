import PanelQuery.Json.Decoder
import PanelQuery.Querier.Error

/-!
# Compiled queries

The answer of the query compiler to a payload: a statement, and what is known of the tags and metrics that it returns.
A response holds one compiled query, or several as resources, of which the first counts.
-/

namespace PanelQuery

/-- A metric that a statement returns. -/
structure ReturnMetric where
  name : String
  kind : Int
  /-- The other fields of the metric. -/
  extra : Fields
  deriving Repr

/-- A statement and what it returns. -/
structure CompiledQuery where
  sql : String
  tags : List Json
  metrics : List ReturnMetric
  deriving Repr

/-- The name of a returned tag, which is a text or an object with a name. -/
def tagName? : Json → Option String
  | .text name => some name
  | .object fields => (Fields.get? "name" fields).bind Json.text?
  | _ => none

namespace ReturnMetric

def toJson (m : ReturnMetric) : Json := .object ([("name", .text m.name), ("type", .int m.kind)] ++ m.extra)

def ofJson? (value : Json) : Option ReturnMetric := do
  let fields ← value.fields?
  let (name, kind) ← (Prod.mk <$> RecordDecoder.need "name" .text <*> .need "type" .int64).decode fields
  let extra := (Fields.erase "name" fields).erase "type"
  return { name, kind, extra := Fields.sorted (Json.normalFields extra) }

def decoder : Decoder ReturnMetric := .whole ofJson?

end ReturnMetric

namespace CompiledQuery

def metric? (q : CompiledQuery) (name : String) : Option ReturnMetric :=
  q.metrics.find? fun metric => metric.name == name

def toJson (q : CompiledQuery) : Json :=
  .object [("sql", .text q.sql), ("returnTags", .array q.tags),
    ("returnMetrics", .array (q.metrics.map ReturnMetric.toJson))]

def decoder : Decoder CompiledQuery :=
  .record
    (mk <$> .need "sql" .text
      <*> .given "returnTags" [] (.list .any)
      <*> .given "returnMetrics" [] (.list ReturnMetric.decoder))

/-- The compiled queries of a response: its resources, if all of them decode, or the response itself. -/
def ofResponse? (value : Json) : Option (List CompiledQuery) :=
  (value.fields?.bind (RecordDecoder.need "resource" (.list decoder)).decode).or
    ((decoder.decode value).map fun query => [query])

/-- The first of the compiled queries in the body of a response. -/
def ofBody (body : String) : Except QuerierError CompiledQuery :=
  match (Decoder.whole ofResponse?).read body with
  | .error _ => .error (.decode "invalid compiler response")
  | .ok [] => .error (.compile "compiler returned no resource")
  | .ok (query :: _) => .ok query

end CompiledQuery
end PanelQuery
