/-!
# Tables

What is known of a table: its tags, metrics and functions. A tag may stand for two columns, one of the client and
one of the server of a flow, and is found by any of its three names.
-/

namespace PanelQuery

/-- A column to filter and group by. -/
structure Tag where
  name : String
  /-- The column of the client's side. -/
  clientName : String
  /-- The column of the server's side. -/
  serverName : String
  displayName : String
  kind : String
  category : String
  operators : List String
  deprecated : Bool
  notSupportedOperators : List String
  deriving DecidableEq, Repr

namespace Tag

/-- Whether the values of the tag are codes with names. -/
def isEnum (t : Tag) : Bool := ["int_enum", "string_enum", "bit_enum"].contains t.kind

/-- Whether the values of the tag are objects. -/
def isMap (t : Tag) : Bool := t.kind == "map"

/-- Whether `key` is one of the names of the tag. -/
def isNamed (t : Tag) (key : String) : Bool := t.name == key || t.clientName == key || t.serverName == key

end Tag

/-- A column to aggregate. -/
structure Metric where
  name : String
  displayName : String
  kind : Int
  isAgg : Bool
  category : String
  operators : List String
  deriving DecidableEq, Repr

namespace Metric

/-- The kind of metrics that count the values of a tag. -/
def tagKind : Int := 6

/-- The kind of metrics whose values are objects. -/
def mapKind : Int := 7

end Metric

/-- A function on metrics. -/
structure MetricFunction where
  name : String
  paramCount : Nat
  /-- The kinds of metrics that it aggregates; unset for a function that is applied to another one. -/
  metricKinds : Option (List Int)
  deriving DecidableEq, Repr

/-- Whether the function is applied to other functions rather than to metrics. -/
def MetricFunction.isSubFunction (f : MetricFunction) : Bool := f.metricKinds.isNone

/-- The columns and functions of a table. -/
structure Table where
  tags : List Tag
  metrics : List Metric
  functions : List MetricFunction
  deriving DecidableEq, Repr

namespace Table

/-- The first tag with `key` among its names. -/
def tag? (t : Table) (key : String) : Option Tag := t.tags.find? fun tag => tag.isNamed key

/-- The first metric of that name. -/
def metric? (t : Table) (key : String) : Option Metric := t.metrics.find? fun metric => metric.name == key

def function? (t : Table) (name : String) : Option MetricFunction := t.functions.find? fun func => func.name == name

/-- Whether the tag of that name has codes with names. -/
def isEnumTag (t : Table) (key : String) : Bool := (t.tag? key).any Tag.isEnum

end Table
end PanelQuery
