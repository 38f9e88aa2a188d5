import PanelQuery.Form.Basic
import PanelQuery.Frame.Alias
import PanelQuery.Frame.Basic
import PanelQuery.Frame.Resource
import PanelQuery.Grouping

/-!
# Shaping results into frames

`shapeFrames` turns the result of a compiled query into what the panel draws. A series of time that is grouped gives
one frame for each combination of tag values, in the order of those values and each in the order of time; anything
else gives a single frame with all rows.
-/

namespace PanelQuery

/-! ## Records and columns -/

/-- The column of the identifiers of records. -/
def idColumn : String := "toString(_id)"

namespace Record

/-- The record with its identifier under the name and with the mark that the panel uses. -/
def withId (r : Record) : Record :=
  match Fields.get? idColumn r with
  | some id => Fields.put "_id" (.text ("id-" ++ id.shown)) (Fields.erase idColumn r)
  | none => r

/-- The record as it is shown. -/
def prepare (r : Record) : Record := withResources (withId r)

end Record

/-- What a column holds. -/
inductive ColumnRole where
  | time
  | metric (metric : ReturnMetric)
  | tag
  /-- Named like a time but with other values: shown as text and never grouped on. -/
  | text
  deriving Repr

/-- A column of a result. -/
structure Column where
  name : String
  role : ColumnRole
  deriving Repr

namespace Column

/-- The role of a column, from its name and its value in the first record. -/
def of (compiled : CompiledQuery) (name : String) (value : Json) : Column :=
  { name
    role :=
      match compiled.metric? name with
      | some metric => .metric metric
      | none =>
        if Text.contains name "time" then (if value.number?.isSome then .time else .text) else .tag }

def isTag (c : Column) : Bool :=
  match c.role with
  | .tag => true
  | _ => false

def isTime (c : Column) : Bool :=
  match c.role with
  | .time => true
  | _ => false

end Column

/-- The columns of a result, from its first record. -/
def columnsOf (compiled : CompiledQuery) (first : Record) : List Column :=
  first.map fun (name, value) => Column.of compiled name value

/-! ## Fields -/

/-- Seconds as milliseconds; what is no number is null. -/
def timeMillis (value : Json) : Json :=
  match value.number? with
  | some n => .int (n.toDouble * Double.ofInt 1000).toInt64
  | none => .null

/-- The number in a metric column; text counts if it is a number. -/
def metricNumber (column : String) (value : Json) : Except QuerierError Json :=
  let refused : Except QuerierError Json :=
    .error (.decode ("metric column `" ++ column ++ "` has value " ++ value.compress))
  match value with
  | .null => .ok .null
  | .number n => .ok (.double n.toDouble)
  | .text s =>
    match Decimal.read? (Text.trim s) with
    | some x => .ok (.double x)
    | none => refused
  | _ => refused

namespace Column

/-- The kind of the field of a column. The values of a map metric are shown as text in a table. -/
def fieldKind (c : Column) (inTable : Bool) : FieldKind :=
  match c.role with
  | .time => .time
  | .metric metric => if inTable && metric.kind == 7 then .text else .number
  | .tag | .text => .text

def fieldValue (c : Column) (kind : FieldKind) (value : Json) : Except QuerierError Json :=
  match kind with
  | .time => .ok (timeMillis value)
  | .number => metricNumber c.name value
  | .text => .ok (.text value.shown)
  | .other => .ok value

def field (c : Column) (name : String) (inTable : Bool) (rows : List Record) : Except QuerierError FrameField := do
  let kind := c.fieldKind inTable
  let values ← rows.mapM fun row => c.fieldValue kind (Record.value row c.name)
  return { name, kind, values }

end Column

/-! ## What is known of a frame -/

/-- A returned tag as it is shown: none for times, and no quotes in the name. -/
def shownTag? (tag : Json) : Option Json :=
  (tagName? tag).bind fun name =>
    if Text.contains name "time" then none
    else
      let name := Json.text (Text.replaceAll name "'" "")
      match tag with
      | .object fields => some (.object (Fields.put "name" name fields))
      | _ => some name

/-- What is known of the columns of the frames of a form. -/
def frameMeta (compiled : CompiledQuery) (f : Form) : FrameMeta :=
  let tags := compiled.tags.filterMap shownTag?
  { tags
    metrics := compiled.metrics
    relationship :=
      if f.appType = .accessRelationship then some (Relationship.of f.groupBy (tags.filterMap tagName?)) else none }

/-! ## Series -/

/-- The tag values of a record as text. -/
def tagTexts (tags : List String) (r : Record) : List String :=
  tags.map fun tag => ((Fields.get? tag r).map Json.shown).getD ""

/-- The order of lists of texts. -/
def textsLe : List String → List String → Bool
  | [], _ => true
  | _ :: _, [] => false
  | a :: as, b :: bs => if a < b then true else if b < a then false else textsLe as bs

/-- The time of a record, if it is a number. -/
def timeOf? (column : String) (r : Record) : Option Double := (Record.value r column).number?.map Number.toDouble

/-- The order of times; records without a time come last. -/
def timeLe : Option Double → Option Double → Bool
  | some a, some b => decide (a.rank ≤ b.rank)
  | none, some _ => false
  | _, none => true

/-- Records in the order of time; records with one time keep their order. -/
def sortByTime (column : String) (rows : List Record) : List Record :=
  rows.mergeSort fun a b => timeLe (timeOf? column a) (timeOf? column b)

/-- The records of each series, by tag values and in the order of those. -/
def seriesOf (tags : List String) (records : List Record) : List (List Record) :=
  ((groupOn (tagTexts tags) records).mergeSort fun a b => textsLe a.1 b.1).map Prod.snd

/-- The name of a series: the alias of the form, or its tag values without identifiers, or an asterisk. -/
def seriesName (aliasName : String) (tags : List String) (first : Record) : String :=
  let rendered := renderAlias aliasName first
  if !rendered.isEmpty then rendered
  else
    let shown := (tags.filter fun tag => !Text.contains tag "_id").filterMap fun tag =>
      (Fields.get? tag first).map Json.shown
    let joined := Text.joinWith "，" shown
    if joined.isEmpty then "*" else joined

/-- Whether the names of metrics are part of the names of series: as the form says, or if there are several. -/
def showsMetrics (f : Form) (compiled : CompiledQuery) : Bool :=
  if f.showMetrics = 1 then true else if f.showMetrics = 0 then false else 1 < compiled.metrics.length

def seriesFrame (f : Form) (compiled : CompiledQuery) (columns : List Column) (tags : List String)
    (records : List Record) : Except QuerierError Frame := do
  let rows :=
    match columns.find? Column.isTime with
    | some column => sortByTime column.name records
    | none => records
  let name := seriesName f.aliasName tags (rows.head?.getD [])
  let fields ← columns.mapM fun column =>
    let fieldName :=
      match column.role with
      | .metric _ => if showsMetrics f compiled then name ++ "-" ++ column.name else name
      | _ => column.name
    column.field fieldName false rows
  return { fields, info := frameMeta compiled f }

def tableFrame (f : Form) (compiled : CompiledQuery) (columns : List Column) (records : List Record) :
    Except QuerierError Frame := do
  let fields ← columns.mapM fun column => column.field column.name true records
  return { fields, info := frameMeta compiled f }

/-- Whether the result is a series of time that is grouped. -/
def isSeries (f : Form) (compiled : CompiledQuery) : Bool :=
  f.format == some .timeSeries && Text.contains (String.ofList (compiled.sql.toList.map Char.toUpper)) "GROUP BY"

/-- The frames of a result. -/
def shapeFrames (result : QueryResult) (compiled : CompiledQuery) (f : Form) : Except QuerierError (List Frame) :=
  let records := result.records.map Record.prepare
  match records with
  | [] => .ok []
  | first :: _ =>
    let columns := columnsOf compiled first
    if isSeries f compiled then
      let tags := (columns.filter Column.isTag).map Column.name
      (seriesOf tags records).mapM (seriesFrame f compiled columns tags)
    else (tableFrame f compiled columns records).map fun frame => [frame]

end PanelQuery
