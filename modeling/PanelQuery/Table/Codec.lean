import PanelQuery.Json.Decoder
import PanelQuery.Table.Basic

/-!
# Tables in JSON

Encoders and decoders for tables and their parts. Of a part only the name has to be there.
-/

namespace PanelQuery

open RecordDecoder (need given maybe)

namespace Tag

def toJson (t : Tag) : Json :=
  .object [("name", .text t.name), ("client_name", .text t.clientName), ("server_name", .text t.serverName),
    ("display_name", .text t.displayName), ("type", .text t.kind), ("category", .text t.category),
    ("operators", .texts t.operators), ("deprecated", .bool t.deprecated),
    ("not_supported_operators", .texts t.notSupportedOperators)]

def decoder : Decoder Tag :=
  .record
    (mk <$> need "name" .text
      <*> given "client_name" "" .text
      <*> given "server_name" "" .text
      <*> given "display_name" "" .text
      <*> given "type" "" .text
      <*> given "category" "" .text
      <*> given "operators" [] (.list .text)
      <*> given "deprecated" false .bool
      <*> given "not_supported_operators" [] (.list .text))

end Tag

namespace Metric

def toJson (m : Metric) : Json :=
  .object [("name", .text m.name), ("display_name", .text m.displayName), ("type", .int m.kind),
    ("is_agg", .bool m.isAgg), ("category", .text m.category), ("operators", .texts m.operators)]

def decoder : Decoder Metric :=
  .record
    (mk <$> need "name" .text
      <*> given "display_name" "" .text
      <*> given "type" 0 .int64
      <*> given "is_agg" false .bool
      <*> given "category" "" .text
      <*> given "operators" [] (.list .text))

end Metric

namespace MetricFunction

def toJson (f : MetricFunction) : Json :=
  .object [("name", .text f.name), ("additional_param_count", .int f.paramCount),
    ("support_metric_types", .optional (fun kinds => .array (kinds.map Json.int)) f.metricKinds)]

def decoder : Decoder MetricFunction :=
  .record
    (mk <$> need "name" .text
      <*> given "additional_param_count" 0 .natural
      <*> maybe "support_metric_types" (.list .int64))

end MetricFunction

namespace Table

def toJson (t : Table) : Json :=
  .object [("tags", .array (t.tags.map Tag.toJson)), ("metrics", .array (t.metrics.map Metric.toJson)),
    ("functions", .array (t.functions.map MetricFunction.toJson))]

def decoder : Decoder Table :=
  .record
    (mk <$> need "tags" (.list Tag.decoder)
      <*> need "metrics" (.list Metric.decoder)
      <*> need "functions" (.list MetricFunction.decoder))

def ofJson? (value : Json) : Option Table := decoder.decode value

end Table
end PanelQuery
