import PanelQuery.Querier.Result
import PanelQuery.Table.Codec

/-!
# Metadata

Tables and the values of tags, read off the results of `show` statements. Null columns take the defaults of their
fields, except that a function without metric kinds is told by null; rows that do not decode are skipped.
-/

namespace PanelQuery

/-- A value of a tag and how it is displayed. -/
structure TagValue where
  value : Json
  displayName : String
  deriving Repr

def TagValue.decoder : Decoder TagValue := .record (mk <$> .need "value" .any <*> .given "display_name" "" .text)

namespace QueryResult

/-- A record without the null columns that stand for defaults. -/
def withoutNulls (record : Record) : Record :=
  record.filter fun field => !field.2.isNull || field.1 == "support_metric_types"

def decodeRows (r : QueryResult) (d : Decoder α) : List α :=
  r.records.filterMap fun record => d.decode (.object (withoutNulls record))

def tagValues (r : QueryResult) : List TagValue := r.decodeRows TagValue.decoder

end QueryResult

/-- The table that the results of the three statements describe. -/
def Table.ofResults (tags metrics functions : QueryResult) : Table where
  tags := tags.decodeRows Tag.decoder
  metrics := metrics.decodeRows Metric.decoder
  functions := functions.decodeRows MetricFunction.decoder

end PanelQuery
