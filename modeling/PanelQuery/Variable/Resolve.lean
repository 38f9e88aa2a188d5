import PanelQuery.Variable.Basic

/-!
# Resolving values

What a value item of a condition stands for once its variable has been looked up (`resolveItem`). A reference is
resolved only if the variable is declared and has a kind; any other value is taken as it is.
-/

namespace PanelQuery

/-- A value after its variable has been looked up. -/
inductive Resolved where
  | one (value : Scalar)
  | many (values : List Scalar)
  /-- The variable is switched off: the condition must not filter. -/
  | disabled
  /-- The variable matches anything: there is no condition. -/
  | any
  deriving DecidableEq, Repr

namespace VarValue

/-- Whether a text is, as a list, among the values, or, as one value, part of it. -/
def mentions (v : VarValue) (needle : String) : Bool :=
  match v with
  | one value => value.text?.any fun text => Text.contains text needle
  | many values => values.any fun value => value == .text needle

/-- Whether nothing but the sentinel for any value is chosen. -/
def isAny : VarValue → Bool
  | one value => value == .text anySentinel
  | many values => values.all fun value => value == .text anySentinel

/-- The values as they are. -/
def resolved : VarValue → Resolved
  | one value => .one value
  | many values => .many values

/-- The values without those that match anything. -/
def resolvedReal : VarValue → Resolved
  | one value => .one value
  | many values => .many (values.filter fun value => !(value == .text anySentinel || value == .text "Any"))

end VarValue

namespace VarContext

/-- The choice in force: a scoped value, by name or by the text of the reference, goes before the variable's own. -/
def current (ctx : VarContext) (declared : Variable) (name : String) (raw : Scalar) : Current :=
  let bound := (ctx.binding? name).or (raw.text?.bind ctx.binding?)
  match bound with
  | some bound => ⟨bound.value, bound.text.getD bound.value⟩
  | none => declared.current.getD .empty

/-- What a choice stands for: its texts where texts are matched, else its values. -/
def pick (declared : Variable) (current : Current) (useText : Bool) : Resolved :=
  if declared.isPlainText then current.value.resolved
  else if current.value.mentions allSentinel then
    .many (declared.realOptions.map fun option => if useText then option.text else option.value)
  else if current.value.mentions disabledSentinel then .disabled
  else if current.value.isAny then .any
  else (if useText then current.text else current.value).resolvedReal

/-- What a reference stands for, if the variable is declared and has a kind. -/
def resolve? (ctx : VarContext) (name : String) (raw : Scalar) (op : Option Operator) : Option Resolved := do
  let declared ← ctx.declared? name
  let _ ← declared.kind
  return pick declared (ctx.current declared name raw) (op.any Operator.isLike)

/-- What a value item stands for. -/
def resolveItem (ctx : VarContext) (item : ValueItem) (op : Option Operator) : Resolved :=
  ((item.variableName?).bind fun name => ctx.resolve? name item.value op).getD (.one item.value)

end VarContext
end PanelQuery
