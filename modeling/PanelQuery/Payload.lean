import PanelQuery.Condition.Join
import PanelQuery.Interval

/-!
# Query payloads

`Form.compile` turns a form into the payload for the query compiler: selected tags and metrics, the condition with the
bounds of time, the time bucket and the tags to group by, and the order.
-/

namespace PanelQuery

/-- What stands for the start of the time range. -/
def timeFromPlaceholder : String := "$\x7b__from:date:seconds\x7d"

/-- What stands for the end of the time range. -/
def timeToPlaceholder : String := "$\x7b__to:date:seconds\x7d"

/-- The start of the keys that order by a time bucket; the width follows. -/
def bucketKeyStart : String := "interval_"

/-- The payload for the query compiler. -/
structure Payload where
  db : String
  table : String
  tags : List Selection
  metrics : List Selection
  condition : List Condition
  groupBy : List Selection
  orderBy : List OrderEntry
  slimit : Option String
  limit : String
  offset : String
  deriving Repr

namespace Row

/-- Whether nothing is applied to the key of a row. -/
def isBare (r : Row) : Bool :=
  r.func.isEmpty && r.params.isEmpty && r.aliasName.isEmpty && r.subFuncs.isEmpty && r.preFunc.isEmpty

def selection (r : Row) : Selection := if r.isBare then .key r.realKey else .expr r.compose

/-- The tag that a row groups by. -/
def grouping (r : Row) : Selection :=
  if r.aliasName.isEmpty then .key r.realKey else .expr (.column "" r.realKey none (some r.aliasName))

/-- The order of a row: by a time bucket, or by its expression. -/
def ordering (r : Row) : OrderEntry :=
  match Text.dropStart? r.realKey bucketKeyStart with
  | some width => ⟨.column "interval" "time" (some (.single (.text width))) none, some r.isDescending⟩
  | none => ⟨r.composeAs "", some r.isDescending⟩

end Row

def timeBound (op placeholder : String) : Row :=
  { Row.tag "time" with op, val := some (.literal (.text placeholder)) }

def timeBounds : List Row := [timeBound ">=" timeFromPlaceholder, timeBound "<=" timeToPlaceholder]

namespace Form

/-- The rows that make conditions. -/
def conditionRows (f : Form) : List Row := f.filter ++ timeBounds ++ f.having

def condition (f : Form) (ctx : Context) : List Condition :=
  joinConditions (f.conditionRows.filterMap fun row => row.normalize? ctx)

def selections (f : Form) (kind : RowKind) : List Selection :=
  (f.select.filter fun row => row.hasKey && row.kind == kind).map Row.selection

/-- The identifier of a record, which tracing selects besides the form's tags. -/
def recordId : Selection := .expr (.column "TO_STRING" "_id" none none)

/-- The time bucket, if an interval is set. -/
def timeBucket? (f : Form) (ctx : Context) : Option Selection :=
  (Interval.resolve? ctx f.interval).map fun interval =>
    let isVariable := Text.startsWith (Text.trimStart f.interval) "$"
    let aliasName := if isVariable then "time_value" else "time_" ++ interval.label
    .expr (.column "interval" "time" (some (.single interval.toScalar)) (some aliasName))

/-- The limit on series, for a query grouped by tags and time. -/
def seriesLimit? (f : Form) : Option String :=
  if f.groupBy.any Row.hasKey && !f.interval.isEmpty then
    some (if f.slimit.isEmpty then "20" else f.slimit)
  else none

/-- The payload of a form. -/
def compile (f : Form) (ctx : Context) : Payload where
  db := f.db
  table := f.table
  tags := f.selections .tag ++ if f.appType.isTracing then [recordId] else []
  metrics := f.selections .metric
  condition := f.condition ctx
  groupBy := (f.timeBucket? ctx).toList ++ (f.groupBy.filter Row.hasKey).map Row.grouping
  orderBy := (f.orderBy.filter Row.hasKey).map Row.ordering
  slimit := f.seriesLimit?
  limit := f.limit
  offset := f.offset

end Form

def Payload.toJson (p : Payload) : Json :=
  .object ([("format", .text "sql"), ("db", .text p.db), ("tableName", .text p.table),
      ("selects", .object [("TAGS", .array (p.tags.map Selection.toJson)),
        ("METRICS", .array (p.metrics.map Selection.toJson))]),
      ("conditions", .object [("RESOURCE_SETS", .array [.object [("id", .text "0"), ("isForbidden", .bool false),
        ("condition", .array (Condition.listToJson p.condition))]])]),
      ("groupBy", .array (p.groupBy.map Selection.toJson)), ("orderBy", .array (p.orderBy.map OrderEntry.toJson))] ++
    Fields.optional "slimit" .text p.slimit ++
    [("limit", .text p.limit), ("offset", .text p.offset)])

end PanelQuery
