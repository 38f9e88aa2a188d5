import PanelQuery.Condition.Basic
import PanelQuery.Context
import PanelQuery.Variable.Resolve

/-!
# Rows as conditions

A row of the where or having clause becomes a condition once its value has been resolved (`Row.normalize?`). A row
without a key makes none, nor does one whose variable matches anything; one whose variable is switched off makes a
forbidden condition.
-/

namespace PanelQuery

/-- The condition of one row. -/
inductive Normalized where
  | tag (c : Comparison)
  | metric (c : Condition)
  deriving Repr

/-- The value of a row after its variables have been looked up. -/
inductive RowOperand where
  | value (v : CondValue)
  | disabled
  | any
  deriving DecidableEq, Repr

namespace RowOperand

/-- The operand of one item. -/
def ofResolved : Resolved → RowOperand
  | .one v => value (.one v)
  | .many vs => value (.many vs)
  | .disabled => disabled
  | .any => any

/-- The operand of several items: all their values. One item that is switched off switches the condition off; items
that match anything count only if nothing else is there. -/
def ofList (items : List Resolved) : RowOperand :=
  let values := items.flatMap fun
    | .one v => [v]
    | .many vs => vs
    | _ => []
  if items.contains .disabled then disabled
  else if items.contains .any && values.isEmpty then any
  else value (.many values)

end RowOperand

/-- The operand that the value of a row stands for. -/
def Context.operand (ctx : Context) (op : Operator) : Option RowValue → RowOperand
  | none => .value (.one .empty)
  | some (.single item) => .ofResolved (ctx.resolveItem item (some op))
  | some (.list items) => .ofList (items.map fun item => ctx.resolveItem item (some op))

namespace Row

/-- The parameters of a row in a comparison. -/
def comparisonParams (r : Row) : List Scalar := if r.params.isEmpty then [] else r.params.toList

/-- The condition of a metric: an expression where functions are chained, else a leaf. -/
def metricCondition (r : Row) (isForbidden : Bool) (op : Operator) (val : CondValue) : Condition :=
  if !r.subFuncs.isEmpty || (!r.preFunc.isEmpty && !r.func.isEmpty) then
    .composed { isForbidden, op, expr := r.composeAs "", val }
  else
    .leaf { isForbidden, kind := .metric, key := r.realKey, func := r.func, op, val, params := r.comparisonParams,
            preFunc := r.preFunc }

/-- The condition of a tag. The names of codes are matched where the operator matches text. -/
def tagCondition (r : Row) (ctx : Context) (isForbidden : Bool) (op : Operator) (val : CondValue) : Comparison :=
  { isForbidden, key := r.realKey,
    func := if op.matchesText && ctx.table.any (·.isEnumTag r.realKey) then "Enum" else r.func,
    op, val, params := r.comparisonParams, subFuncs := r.subFuncs, whereOnly := r.whereOnly }

/-- The condition of a row, if it makes one. -/
def normalize? (r : Row) (ctx : Context) : Option Normalized :=
  if !r.hasKey then none
  else
    let op := r.operator?.getD (.other "")
    let build (isForbidden : Bool) (val : CondValue) : Normalized :=
      match r.kind with
      | .metric => .metric (r.metricCondition isForbidden op val)
      | .tag => .tag (r.tagCondition ctx isForbidden op val)
    match ctx.operand op r.val with
    | .value val => some (build false val)
    | .disabled => some (build true (.one (.text disabledSentinel)))
    | .any => none

end Row
end PanelQuery
