import PanelQuery.Payload

/-!
# Validation

The conditions that a form has to satisfy before it is compiled (`Form.fault?`). Of several faults the first in the
order of `FormError` is reported.
-/

namespace PanelQuery

/-- What is wrong with a form. -/
inductive FormError where
  | missingRelationshipSide
  | missingRelationshipSelect
  | missingMetricFunction (metric : String)
  | missingMetricOperand
  | missingWhereOperand
  | mixedDerivative
  deriving DecidableEq, Repr

namespace FormError

def name : FormError → String
  | missingRelationshipSide => "MissingRelationshipSide"
  | missingRelationshipSelect => "MissingRelationshipSelect"
  | missingMetricFunction _ => "MissingMetricFunction"
  | missingMetricOperand => "MissingMetricOperand"
  | missingWhereOperand => "MissingWhereOperand"
  | mixedDerivative => "MixedDerivative"

def message : FormError → String
  | missingRelationshipSide => "access relationship queries need a `from` and a `to` tag in GROUP BY"
  | missingRelationshipSelect => "access relationship queries need at least one metric in SELECT"
  | missingMetricFunction metric => "metric `" ++ metric ++ "` needs a function while grouping"
  | missingMetricOperand => "where and having metrics need both an operator and a value"
  | missingWhereOperand => "where conditions need both an operator and a value"
  | mixedDerivative => "Derivative must be applied to all selected metrics or to none"

end FormError

namespace Row

/-- Whether a row orders by a time bucket. -/
def isBucket (r : Row) : Bool := Text.startsWith r.realKey bucketKeyStart

/-- Whether a row has a key but no operator or no value. -/
def isIncomplete (r : Row) : Bool := r.hasKey && (r.operator?.isNone || !r.hasValue)

def lacksFunction (r : Row) : Bool := r.isMetric && r.hasKey && r.func.isEmpty && !r.isBucket

/-- Whether a selected metric is derived before it is aggregated. -/
def isDerivative (r : Row) : Bool := r.preFunc == "Derivative"

end Row

namespace Form

/-- Whether a group-by row describes that end of a relationship. -/
def hasSide (f : Form) (side : Side) : Bool := f.groupBy.any fun row => row.side == some side

def selectedMetrics (f : Form) : List Row := f.select.filter fun row => row.isMetric && row.hasKey

/-- The first fault of a form, if there is one. -/
def fault? (f : Form) : Option FormError :=
  let isRelationship := f.appType == .accessRelationship
  let lacking := (f.select ++ f.having ++ f.orderBy).find? Row.lacksFunction
  let conditions := f.filter ++ f.having
  let derived := f.selectedMetrics.filter Row.isDerivative
  if isRelationship && !(f.hasSide .source && f.hasSide .target) then some .missingRelationshipSide
  else if isRelationship && !f.select.any Row.hasKey then some .missingRelationshipSelect
  else
    match (if f.isGrouped then lacking else none) with
    | some row => some (.missingMetricFunction row.realKey)
    | none =>
      if conditions.any fun row => row.isMetric && row.isIncomplete then some .missingMetricOperand
      else if f.filter.any Row.isIncomplete then some .missingWhereOperand
      else if !derived.isEmpty && derived.length < f.selectedMetrics.length then some .mixedDerivative
      else none

end Form
end PanelQuery
