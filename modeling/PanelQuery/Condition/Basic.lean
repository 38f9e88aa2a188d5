import PanelQuery.Expression

/-!
# Conditions

The condition of a query is a tree: leaves compare a column with values, composed conditions compare an expression
of a metric, and groups join conditions by AND or OR. The nodes of a query stand side by side and all have to hold.
-/

namespace PanelQuery

/-- How the members of a group are joined. -/
inductive Junction where
  | and
  | or
  deriving DecidableEq, Repr

/-- What a column is compared with. -/
inductive CondValue where
  | one (value : Scalar)
  | many (values : List Scalar)
  deriving DecidableEq, Repr

/-- A comparison of a column. -/
structure Comparison where
  /-- Whether a variable has switched the condition off. -/
  isForbidden : Bool := false
  kind : RowKind := .tag
  key : String
  func : String := ""
  op : Operator
  val : CondValue
  params : List Scalar := []
  subFuncs : List SubFunction := []
  whereOnly : Bool := false
  preFunc : String := ""
  deriving DecidableEq, Repr

/-- A comparison of an expression of a metric. -/
structure Composed where
  isForbidden : Bool
  op : Operator
  expr : Expr
  val : CondValue
  deriving DecidableEq, Repr

/-- A condition. -/
inductive Condition where
  | leaf (c : Comparison)
  | composed (c : Composed)
  | group (op : Junction) (members : List Condition)
  deriving Repr

/-! ## JSON -/

def Junction.name : Junction → String
  | and => "AND"
  | or => "OR"

def CondValue.toJson : CondValue → Json
  | one value => value.toJson
  | many values => .array (values.map Scalar.toJson)

def Comparison.toJson (c : Comparison) : Json :=
  .object ([("isForbidden", .bool c.isForbidden), ("type", .text c.kind.name), ("key", .text c.key)] ++
    Fields.onlyIf (!c.func.isEmpty) "func" (.text c.func) ++
    [("op", .text c.op.text), ("val", c.val.toJson)] ++
    Fields.onlyIf (!c.params.isEmpty) "params" (.array (c.params.map Scalar.toJson)) ++
    Fields.onlyIf (!c.subFuncs.isEmpty) "subFuncs" (.array (c.subFuncs.map SubFunction.toJson)) ++
    Fields.onlyIf c.whereOnly "whereOnly" (.bool true) ++
    Fields.onlyIf (!c.preFunc.isEmpty) "preFunc" (.text c.preFunc))

def Composed.toJson (c : Composed) : Json :=
  .object [("isForbidden", .bool c.isForbidden), ("type", .text RowKind.metric.name), ("op", .text c.op.text),
    ("val", .array [c.expr.toJson, c.val.toJson])]

namespace Condition

mutual
def toJson : Condition → Json
  | leaf c => c.toJson
  | composed c => c.toJson
  | group op members =>
    .object [("type", .text RowKind.tag.name), ("op", .text op.name), ("val", .array (listToJson members))]

def listToJson : List Condition → List Json
  | [] => []
  | c :: rest => toJson c :: listToJson rest
end

end Condition
end PanelQuery
