import PanelQuery.Form.Codec
import PanelQuery.Table.Basic

/-!
# Options

What the editor offers. `TableOptions.of` derives the tags, metrics and functions of a table once; `clauseOptions`
restricts the tags and metrics to what each clause of a form may choose, and `functionOptions` the functions to those
of a row.
-/

namespace PanelQuery

/-- An operator offered for a tag or metric. -/
structure OperatorOption where
  label : String
  value : String
  description : String := ""
  deriving DecidableEq, Repr

/-- The type of an option: tags are typed by name, metrics by number. -/
inductive OptionKind where
  | tag (name : String)
  | metric (kind : Int)
  deriving DecidableEq, Repr

/-- A tag or metric to choose. -/
structure FieldOption where
  label : String
  value : String
  kind : OptionKind
  operators : List OperatorOption
  side : Option Side := none
  whereOnly : Bool := false
  isAgg : Bool := false
  notSupportedOperators : List String := []
  deriving DecidableEq, Repr

/-- The type of a tag; a metric has none. -/
def FieldOption.tagType (o : FieldOption) : String :=
  match o.kind with
  | .tag name => name
  | .metric _ => ""

/-- A function to choose. -/
structure FunctionOption where
  name : String
  paramCount : Nat
  metricKinds : Option (List Int)
  deriving DecidableEq, Repr

namespace FunctionOption

/-- Whether the function aggregates metrics of that kind. -/
def supports (o : FunctionOption) (kind : Int) : Bool := o.metricKinds.any fun kinds => kinds.contains kind

/-- The function that names the codes of a tag. -/
def enum : FunctionOption := ⟨"Enum", 0, none⟩

end FunctionOption

/-- The options of a table. -/
structure TableOptions where
  tags : List FieldOption
  metrics : List FieldOption
  functions : List FunctionOption
  subFunctions : List String
  deriving DecidableEq, Repr

/-! ## Tables -/

/-- The operators of tags that have a display form, in display order: the operator, its label and its description. -/
def tagOperators : List OperatorOption :=
  [⟨":", "LIKE", "string, * for wildcard"⟩, ⟨"~", "REGEXP", "regular expression"⟩,
    ⟨"=", "IN", "resource uid, or integer"⟩, ⟨"!:", "NOT LIKE", "string, * for wildcard"⟩,
    ⟨"!~", "NOT REGEXP", "regular expression"⟩, ⟨"!=", "NOT IN", "resource uid, or integer"⟩,
    ⟨"<", "<", "Numerical filtering"⟩, ⟨"<=", "<=", "Numerical filtering"⟩, ⟨">", ">", "Numerical filtering"⟩,
    ⟨">=", ">=", "Numerical filtering"⟩]

/-- The operators that text cannot be compared by. -/
def equalityOperators : List String := ["=", "!=", "IN", "NOT IN"]

/-- The operators offered for a tag, in display order. Text is not compared for equality. -/
def Tag.operatorOptions (t : Tag) : List OperatorOption :=
  tagOperators.filter fun option =>
    t.operators.contains option.value && !(t.kind == "string" && equalityOperators.contains option.value)

namespace Tag

def option (t : Tag) (label value : String) : FieldOption :=
  { label, value, kind := .tag t.kind, operators := t.operatorOptions,
    notSupportedOperators := t.notSupportedOperators }

/-- The text of an option: a name and how it is displayed. -/
def optionLabel (name display : String) : String := name ++ " (" ++ display ++ ")"

/-- The option of a tag that is one column. -/
def plainOption (t : Tag) : FieldOption :=
  let isNamed := !t.displayName.isEmpty && t.displayName != t.name
  t.option (if isNamed then optionLabel t.name t.displayName else t.name) t.name

/-- The option that stands for both columns in conditions, which resources and addresses have. -/
def sharedOption? (t : Tag) : Option FieldOption :=
  if !(t.clientName.isEmpty && t.serverName.isEmpty) && (t.kind == "resource" || t.kind == "ip") then
    some { t.option (optionLabel t.name t.displayName) t.name with whereOnly := true }
  else none

/-- The option of the column of one side, if there is one. -/
def sideOption? (t : Tag) (name sideName : String) (side : Side) : Option FieldOption :=
  if name.isEmpty then none
  else some { t.option (optionLabel name (t.displayName ++ " - " ++ sideName)) name with side := some side }

/-- The options of a tag: one if its sides have no names of their own, else those of its columns. -/
def options (t : Tag) : List FieldOption :=
  if t.name == t.clientName && t.name == t.serverName then [t.plainOption]
  else
    t.sharedOption?.toList ++ (t.sideOption? t.clientName "client" .source).toList ++
      (t.sideOption? t.serverName "server" .target).toList

end Tag

def Metric.option (m : Metric) : FieldOption :=
  { label := Tag.optionLabel m.name m.displayName, value := m.name, kind := .metric m.kind,
    operators := m.operators.map fun op => ⟨op, op, ""⟩, isAgg := m.isAgg }

def MetricFunction.option (f : MetricFunction) : FunctionOption := ⟨f.name, f.paramCount, f.metricKinds⟩

namespace TableOptions

/-- The options of a table. Metrics that count the values of a tag are not offered. -/
def of (t : Table) : TableOptions where
  tags := t.tags.flatMap Tag.options
  metrics := (t.metrics.filter fun metric => metric.kind != Metric.tagKind).map Metric.option
  functions := (t.functions.filter fun func => !func.isSubFunction).map MetricFunction.option
  subFunctions := (t.functions.filter MetricFunction.isSubFunction).map MetricFunction.name

def tag? (t : TableOptions) (value : String) : Option FieldOption := t.tags.find? fun option => option.value == value

def metric? (t : TableOptions) (value : String) : Option FieldOption :=
  t.metrics.find? fun option => option.value == value

def function? (t : TableOptions) (name : String) : Option FunctionOption :=
  t.functions.find? fun option => option.name == name

def metricKind? (t : TableOptions) (value : String) : Option Int :=
  (t.metric? value).bind fun option =>
    match option.kind with
    | .metric kind => some kind
    | .tag _ => none

/-- Whether the metric of that name has objects for values. -/
def isMapMetric (t : TableOptions) (value : String) : Bool := t.metricKind? value == some Metric.mapKind

end TableOptions

/-! ## Clauses -/

/-- The tags and metrics that a clause offers. -/
structure FieldOptions where
  tags : List FieldOption
  metrics : List FieldOption
  deriving DecidableEq, Repr

namespace FieldOptions

/-- The options of one kind. -/
def ofKind (o : FieldOptions) : RowKind → List FieldOption
  | .tag => o.tags
  | .metric => o.metrics

/-- Whether the key of a row is offered. -/
def allows (o : FieldOptions) (r : Row) : Bool := (o.ofKind r.kind).any fun option => option.value == r.key

end FieldOptions

/-- Types of tags that cannot be grouped by. -/
def ungroupableTypes : List String := ["map", "pcap", "ip_array", "resource_array"]

/-- Parts of the names of tags that cannot be grouped by. -/
def ungroupableNames : List String :=
  ["lb_listener", "pod_ingress", "capture_nic_host", "capture_nic_chost", "capture_nic_pod_node", "tap_port_host",
    "tap_port_chost", "tap_port_pod_node"]

/-- Tags that are neither selected nor grouped by. -/
def reservedTags : List String := ["_id", "time"]

def incomparableTags : List String := ["start_time", "end_time"]

namespace FieldOption

/-- Whether an option may be selected from a form. -/
def isSelectable (o : FieldOption) (f : Form) : Bool :=
  !o.whereOnly && !reservedTags.contains o.value && (!f.isGrouped || f.groupByKeys.contains o.value)

/-- Whether an option may be grouped by. -/
def isGroupable (o : FieldOption) : Bool :=
  !o.whereOnly && !ungroupableTypes.contains o.tagType && !reservedTags.contains o.value &&
    !ungroupableNames.any fun name => Text.contains o.value name

/-- Whether the values of an option are no objects. -/
def isPlain (o : FieldOption) : Bool := o.tagType != "map"

/-- Whether a tag may be compared in the where clause. -/
def isComparable (o : FieldOption) : Bool := o.isPlain && !incomparableTags.contains o.value

end FieldOption

def Form.selectedMetricKeys (f : Form) : List String := (f.select.filter Row.isMetric).map Row.key

namespace TableOptions

/-- The metrics offered where they need not be selected: without grouping none that is an aggregate already. -/
def basicMetrics (t : TableOptions) (f : Form) : List FieldOption :=
  t.metrics.filter fun metric => f.isGrouped || !metric.isAgg

/-- The metrics to order by: with grouping only those selected. -/
def orderMetrics (t : TableOptions) (f : Form) : List FieldOption :=
  if f.isGrouped then t.metrics.filter fun metric => f.selectedMetricKeys.contains metric.value else t.basicMetrics f

end TableOptions

/-- What each clause of a form offers. -/
def clauseOptions (t : TableOptions) (f : Form) : Clause → FieldOptions
  | .select => ⟨t.tags.filter fun tag => tag.isSelectable f, t.basicMetrics f⟩
  | .filter => ⟨t.tags.filter FieldOption.isComparable, t.basicMetrics f⟩
  | .having => ⟨t.tags.filter FieldOption.isPlain, t.basicMetrics f⟩
  | .groupBy => ⟨t.tags.filter FieldOption.isGroupable, t.basicMetrics f⟩
  | .orderBy => ⟨t.tags.filter FieldOption.isPlain, t.orderMetrics f⟩

/-- What a row may apply to its key: the names of codes to a selected tag that has them, and to a metric the functions
that aggregate its kind. -/
def functionOptions (t : TableOptions) (c : Clause) (r : Row) : List FunctionOption :=
  match r.kind with
  | .tag =>
    let isEnum := (t.tag? r.key).any fun tag => ["int_enum", "string_enum", "bit_enum"].contains tag.tagType
    if c == .select && isEnum then [.enum] else []
  | .metric =>
    match t.metricKind? r.key with
    | some kind => t.functions.filter fun func => func.supports kind
    | none => []

/-! ## Databases and tables -/

/-- The databases that an application may query. -/
def AppType.databases (app : AppType) (names : List String) : List String :=
  match app with
  | .appTracing | .appTracingFlame => ["flow_log"]
  | .accessRelationship => names.filter fun name => ["flow_log", "flow_metrics"].contains name
  | .profiling => names.filter fun name => name == "profile"
  | .trafficQuery => names

/-- The tables that an application may query. -/
def AppType.tables (app : AppType) (names : List String) : List String :=
  match app with
  | .appTracing | .appTracingFlame => ["l7_flow_log"]
  | .accessRelationship =>
    names.filter fun name => ["l4_flow_log", "l7_flow_log", "network_map", "application_map"].contains name
  | .profiling => names.filter fun name => name == "in_process"
  | .trafficQuery => names

end PanelQuery
