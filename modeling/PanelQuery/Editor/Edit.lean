import PanelQuery.Form.Codec

/-!
# Edits

The changes that the editor makes to a form. `Form.apply` makes a change and everything that follows from it: while
grouping is active, select tags have to be group-by keys (`pruneSelect`) and order-by rows have to be on selected
metrics; without grouping no function is applied (`pruneOrder`).
-/

namespace PanelQuery

/-- A change to a form. -/
inductive Edit where
  | setAppType (appType : AppType)
  | setDb (db : String)
  | setTable (table : String)
  | setSources (sources : String)
  | setInterval (interval : String)
  | setSlimit (slimit : String)
  | setLimit (limit : String)
  | setOffset (offset : String)
  | setFormat (name : String)
  | setAlias (aliasName : String)
  | setShowMetrics (showMetrics : Int8)
  | setRow (clause : Clause) (index : Nat) (row : Row)
  | addRow (clause : Clause) (index : Nat)
  | removeRow (clause : Clause) (index : Nat)
  deriving DecidableEq, Repr

namespace Form

/-! ## What follows from a change -/

/-- While grouping, the select clause keeps the metrics, the blank rows and the tags that are group-by keys. -/
def pruneSelect (f : Form) : Form :=
  if !f.isGrouped then f
  else
    let kept := f.select.filter fun row => row.isMetric || !row.hasKey || f.groupByKeys.contains row.key
    { f with select := if kept.isEmpty then [.blank .metric] else kept }

/-- While grouping, the order-by clause keeps the blank rows and those on the key of a selected metric; without
grouping the rows of the select, having and order-by clauses lose their functions. -/
def pruneOrder (f : Form) : Form :=
  if !f.isGrouped then
    { f with
      select := f.select.map Row.clearFunc
      having := f.having.map Row.clearFunc
      orderBy := f.orderBy.map Row.clearFunc }
  else
    let selected := (f.select.filter Row.isMetric).map Row.key
    let kept := f.orderBy.filter fun row => !row.hasKey || selected.contains row.key
    { f with orderBy := if kept.isEmpty then [Clause.orderBy.blankRow] else kept }

/-- What follows from a change to the rows of a clause. -/
def cascade (f : Form) : Clause → Form
  | .groupBy => f.pruneSelect.pruneOrder
  | .select => f.pruneOrder
  | _ => f

/-! ## New forms -/

/-- The row that restricts tracing to the two sources that report spans. -/
def tracingFilter : Row :=
  let source (label : String) (code : Int) : ValueItem :=
    .choice ⟨some (.text label), .number (.whole code), false⟩
  { Row.tag "tap_port_type" with op := "IN", val := some (.list [source "eBPF" 7, source "OTel" 8]) }

/-- A relationship starts with a metric to select and two tags to group by, and without a format. -/
def relationshipDefaults (f : Form) : Form :=
  if f.appType = .accessRelationship then
    { f with
      select := [.blank .metric]
      groupBy := [Clause.groupBy.blankRow, Clause.groupBy.blankRow]
      format := none }
  else f

/-- The form that the editor opens for an application. Tracing has one table to query. -/
def opened (appType : AppType) : Form :=
  relationshipDefaults
    (if appType.isTracing then
      { appType, db := "flow_log", table := "l7_flow_log", format := none, filter := [tracingFilter] }
    else new appType)

/-! ## Edits -/

/-- Makes a change and all that follows from it. Rows that are not there are not changed or removed, and the last
row of a clause stays. A row is added behind the one at the index: the successor of an index is a natural number here,
where that of the largest index a machine has would overflow. -/
def apply (f : Form) : Edit → Form
  | .setAppType appType => opened appType
  | .setDb db => relationshipDefaults { appType := f.appType, db }
  | .setTable table => relationshipDefaults { appType := f.appType, db := f.db, sources := f.sources, table }
  | .setSources sources => { f with sources }
  | .setInterval interval => ({ f with interval } : Form).pruneSelect.pruneOrder
  | .setSlimit slimit => { f with slimit }
  | .setLimit limit => { f with limit, offset := if limit.isEmpty then "" else f.offset }
  | .setOffset offset => { f with offset }
  | .setFormat name => { f with format := Format.ofName? name }
  | .setAlias aliasName => { f with aliasName }
  | .setShowMetrics showMetrics => { f with showMetrics := max (-1) (min showMetrics 1) }
  | .setRow clause index row => (f.setRows clause ((f.rows clause).set index row)).cascade clause
  | .addRow clause index =>
    let rows := f.rows clause
    let kind := ((rows[index]?).map Row.kind).getD clause.defaultKind
    (f.setRows clause (rows.insertIdx (min (index + 1) rows.length) { clause.blankRow with kind })).cascade clause
  | .removeRow clause index =>
    let rows := f.rows clause
    if 1 < rows.length && index < rows.length then (f.setRows clause (rows.eraseIdx index)).cascade clause else f

end Form
end PanelQuery
