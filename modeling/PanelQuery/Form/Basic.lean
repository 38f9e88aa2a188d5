import PanelQuery.Form.Row

/-!
# The query form

The state of the form: what is queried, five clauses of rows, and the limits and formats of the answer.
-/

namespace PanelQuery

/-- What the form is used for. -/
inductive AppType where
  | trafficQuery
  | accessRelationship
  | appTracing
  | appTracingFlame
  | profiling
  deriving DecidableEq, Repr

def AppType.isTracing : AppType → Bool
  | .appTracing | .appTracingFlame => true
  | _ => false

/-- How the answer is laid out. -/
inductive Format where
  | timeSeries
  | table
  deriving DecidableEq, Repr

/-- A clause of the form. -/
inductive Clause where
  | select
  | filter
  | having
  | groupBy
  | orderBy
  deriving DecidableEq, Repr

namespace Clause

def all : List Clause := [select, filter, having, groupBy, orderBy]

/-- The kind of the row that a clause starts with. -/
def defaultKind : Clause → RowKind
  | filter | groupBy => .tag
  | select | having | orderBy => .metric

/-- The row that a clause starts with. -/
def blankRow (c : Clause) : Row :=
  { kind := c.defaultKind, sort := if c = orderBy then some .ascending else none }

end Clause

/-- The state of the query form. -/
structure Form where
  appType : AppType
  db : String := ""
  table : String := ""
  sources : String := ""
  select : List Row := [Clause.select.blankRow]
  filter : List Row := [Clause.filter.blankRow]
  having : List Row := [Clause.having.blankRow]
  groupBy : List Row := [Clause.groupBy.blankRow]
  orderBy : List Row := [Clause.orderBy.blankRow]
  interval : String := ""
  slimit : String := ""
  limit : String := "100"
  offset : String := ""
  format : Option Format := some .timeSeries
  aliasName : String := ""
  showMetrics : Int8 := -1
  tracingId : Option Choice := none
  deriving DecidableEq, Repr

namespace Form

/-- The form that an application starts with. -/
def new (appType : AppType) : Form := { appType }

def rows (f : Form) : Clause → List Row
  | .select => f.select
  | .filter => f.filter
  | .having => f.having
  | .groupBy => f.groupBy
  | .orderBy => f.orderBy

def setRows (f : Form) (c : Clause) (rows : List Row) : Form :=
  match c with
  | .select => { f with select := rows }
  | .filter => { f with filter := rows }
  | .having => { f with having := rows }
  | .groupBy => { f with groupBy := rows }
  | .orderBy => { f with orderBy := rows }

/-- The keys of the group-by rows that have one. -/
def groupByKeys (f : Form) : List String := (f.groupBy.filter Row.hasKey).map Row.key

/-- Grouping is active once an interval or the key of a group-by row is set. -/
def isGrouped (f : Form) : Bool := !f.interval.isEmpty || f.groupBy.any Row.hasKey

end Form
end PanelQuery
