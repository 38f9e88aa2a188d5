import PanelQuery.Editor.Options
import PanelQuery.Frame.Basic
import PanelQuery.Frame.Resource
import PanelQuery.Grouping
import PanelQuery.Querier.Dialogue

/-!
# Flames

The frame of a trace: its services, its spans with the names of their codes, and for each span all details that the
table has, grouped by the category of the tag.
-/

namespace PanelQuery.Flame

def db : String := "flow_log"

def table : String := "l7_flow_log"

/-! ## Spans -/

/-- The tags of a span whose codes are given names. -/
def namedTags : List String := ["l7_protocol", "response_status", "tap_side"]

/-- The names of the codes of one tag; of several names for a code the last one counts. -/
def codeNames (values : List TagValue) : Fields :=
  Fields.sorted (values.map fun value => (value.value.shown, .text value.displayName))

/-- The column of the names of the codes of a tag. -/
def nameColumn (tag : String) : String := "Enum(" ++ tag ++ ")"

/-- What is shown for the code of a tag: its name or else the code, and nothing for the two protocols that are not
known. -/
def codeName (tag : String) (names : Fields) (code : Json) : Json :=
  let isUnnamed := tag == "l7_protocol" && (code.int64? == some 0 || code.int64? == some 1)
  if isUnnamed then .text "" else (Fields.get? code.shown names).getD code

def nameCodes (names : List (String × Fields)) (span : Record) : Record :=
  names.foldl (fun span (tag, names) =>
    Fields.put (nameColumn tag) (codeName tag names (Record.value span tag)) span) span

/-! ## Details -/

/-- A column that is selected for the details of spans. -/
structure DetailTag where
  category : String
  column : String
  /-- Whether the values are objects. -/
  isMap : Bool
  isEnum : Bool
  deriving DecidableEq, Repr

/-- The column of the result in which the values are found. -/
def DetailTag.resultColumn (t : DetailTag) : String := if t.isEnum then nameColumn t.column else t.column

/-- Whether a tag is part of a map: a map tag has its category. -/
def inMap (tags : List Tag) (t : Tag) : Bool := tags.any fun map => map.isMap && map.category == t.category

/-- Whether a tag has the name of a map tag. -/
def isMapNamed (tags : List Tag) (t : Tag) : Bool := tags.any fun map => map.isMap && map.name == t.name

/-- Whether a tag has no sides with columns of their own. -/
def isUnsided (t : Tag) : Bool :=
  (t.name == t.clientName && t.name == t.serverName) || (t.clientName.isEmpty && t.serverName.isEmpty)

def sideTag? (t : Tag) (isMap : Bool) (side column : String) : Option DetailTag :=
  if column.isEmpty then none
  else some ⟨if isMap then t.category ++ " - " ++ side else t.category, column, isMap, t.isEnum⟩

/-- The columns of a tag. The entries of a map are not selected besides the map. -/
def tagColumns (tags : List Tag) (t : Tag) : List DetailTag :=
  let isMap := inMap tags t
  if ungroupableNames.contains t.name || (isMap && !isMapNamed tags t) then []
  else if isUnsided t then [⟨t.category, t.name, isMap, t.isEnum⟩]
  else (sideTag? t isMap "client" t.clientName).toList ++ (sideTag? t isMap "server" t.serverName).toList

/-- The columns of all tags of a table. -/
def detailTags (t : Table) : List DetailTag := t.tags.flatMap (tagColumns t.tags)

/-- Whether a metric is selected: it does not count a tag, and it is no entry of a map. -/
def isDetailMetric (metrics : List Metric) (m : Metric) : Bool :=
  let maps := metrics.filter fun map => map.kind == Metric.mapKind
  m.kind != Metric.tagKind &&
    !((maps.any fun map => map.category == m.category) && !(maps.any fun map => map.name == m.name))

/-- The metrics of a table that are selected. -/
def detailMetrics (t : Table) : List String := (t.metrics.filter (isDetailMetric t.metrics)).map Metric.name

/-- The identifiers of spans, each of which may have several. -/
def spanIds (spans : List Record) : List Scalar :=
  (spans.filterMap (Fields.get? "_ids")).flatMap fun ids =>
    match ids with
    | .array items => items.filterMap Scalar.ofJson?
    | id => (Scalar.ofJson? id).toList

/-- The payload that selects the details of spans by their identifiers. -/
def detailPayload (tags : List DetailTag) (metrics : List String) (ids : List Scalar) : Payload where
  db := db
  table := table
  tags := tags.map fun tag => if tag.isEnum then .expr (.column "Enum" tag.column none none) else .key tag.column
  metrics := metrics.map .key
  condition := [.group .or (ids.map fun id => .leaf { key := "_id", op := .equal, val := .one id })]
  groupBy := []
  orderBy := [⟨.column "" "start_time" none none, none⟩]
  slimit := none
  limit := ""
  offset := ""

/-- A detail as it is shown: text, or null. -/
def shownDetail : Option Json → Json
  | none | some .null => .null
  | some value => .text value.shown

/-- The entries of a map, which may be written as text; anything else has none. -/
def mapEntries : Option Json → Fields
  | some (.object fields) => fields
  | some (.text s) => ((Json.parse? s).bind Json.fields?).getD []
  | _ => []

def categoryDetails (row : Record) (members : List DetailTag) : Fields :=
  match members with
  | [] => []
  | first :: _ =>
    if first.isMap then
      (mapEntries (Fields.get? first.resultColumn row)).map fun (name, value) => (name, shownDetail (some value))
    else
      Fields.sorted (members.map fun tag => (tag.resultColumn, shownDetail (Fields.get? tag.resultColumn row)))

/-- The metrics of a span, the entries of maps among them. -/
def metricDetails (row : Record) (metrics : List ReturnMetric) : Fields :=
  let isMap (m : ReturnMetric) : Bool := m.kind == Metric.mapKind
  let plain := (metrics.filter fun m => !isMap m).map fun m => (m.name, Record.value row m.name)
  let entries := (metrics.filter isMap).flatMap fun m => mapEntries (Fields.get? m.name row)
  Fields.sorted (plain ++ entries)

/-- All details of a span, by category. -/
def spanDetail (row : Record) (tags : List DetailTag) (metrics : List ReturnMetric) : Json :=
  let categories := (groupOn DetailTag.category tags).map fun (category, members) =>
    (if category.isEmpty then "N/A" else category, Json.object (categoryDetails row members))
  .record (categories ++ [("Metrics", .object (metricDetails row metrics))])

def rowId? (row : Record) : Option Json := (Fields.get? "_id" row).or (Fields.get? "toString(_id)" row)

/-- The details of spans by identifier. -/
def detailsOf (result : QueryResult) (tags : List DetailTag) (metrics : List ReturnMetric) : Fields :=
  Fields.sorted (result.records.filterMap fun row =>
    (rowId? row).map fun id => (id.shown, spanDetail row tags metrics))

/-- Asks for the details of spans. -/
def spanDetails (t : Table) (spans : List Record) : ExceptT QuerierError Dialogue Fields := do
  let ids := spanIds spans
  if ids.isEmpty then return []
  let tags := detailTags t
  let compiled ← Dialogue.compile (detailPayload tags (detailMetrics t) ids)
  let result ← Dialogue.execute { db, sql := compiled.sql }
  return detailsOf result tags compiled.metrics

/-! ## The frame -/

/-- A field with one structured value. -/
def singleField (name : String) (value : Json) : FrameField := ⟨name, .other, [value]⟩

def frame (services : Json) (spans : List Record) (details : Fields) : Frame where
  fields := [singleField "services" services, singleField "tracing" (.array (spans.map .object)),
    singleField "detailList" (.object details)]
  info := {}

/-- The identifier of the span that a form traces, if it names one. -/
def tracingId? (f : Form) : Option String :=
  (f.tracingId.map fun choice => choice.value.shown).filter fun id => !id.isEmpty

end PanelQuery.Flame
