import PanelQuery.Condition.Normal

/-!
# What rows are normalized to

A row with a key becomes a condition of its kind, with its operator (`Row.normalize?_eq_some`). So what joining is given
is well-formed (`Row.normalize?_wellFormed`): the comparisons of tag conditions are of tags, and a metric condition is a
single comparison, of metrics or composed.
-/

namespace PanelQuery

def Row.conditionOperator (r : Row) : Operator := r.operator?.getD (.other "")

/-- What rows are normalized to: comparisons of tags, and conditions of metrics that are no groups. -/
def Normalized.WellFormed : Normalized → Prop
  | tag c => c.kind = .tag
  | metric (.leaf c) => c.kind = .metric
  | metric (.composed _) => True
  | metric (.group _ _) => False

/-- The operator that a condition compares by; a group has none. -/
def Condition.operator? : Condition → Option Operator
  | leaf c => some c.op
  | composed c => some c.op
  | group _ _ => none

/-- The operator of the condition of a row. -/
def Normalized.operator? : Normalized → Option Operator
  | tag c => some c.op
  | metric m => m.operator?

/-- What an operand makes of a condition: its value, and whether a variable has switched it off. One that matches
anything makes none. -/
def RowOperand.verdict? : RowOperand → Option (Bool × CondValue)
  | value val => some (false, val)
  | disabled => some (true, .one (.text disabledSentinel))
  | any => none

/-- Operands are told apart by what they make of a condition. -/
theorem RowOperand.verdict?_inj {o o' : RowOperand} : o.verdict? = o'.verdict? ↔ o = o' := by
  cases o <;> cases o' <;> simp [verdict?]

/-- Only an operand that matches anything makes no condition. -/
theorem RowOperand.verdict?_eq_none_iff {o : RowOperand} : o.verdict? = none ↔ o = any := by
  cases o <;> simp [verdict?]

namespace Row

variable {r : Row} {ctx : Context}

section TagCondition

variable {isForbidden : Bool} {op : Operator} {val : CondValue}

@[simp] theorem tagCondition_isForbidden : (r.tagCondition ctx isForbidden op val).isForbidden = isForbidden := rfl
@[simp] theorem tagCondition_kind : (r.tagCondition ctx isForbidden op val).kind = .tag := rfl
@[simp] theorem tagCondition_key : (r.tagCondition ctx isForbidden op val).key = r.realKey := rfl
@[simp] theorem tagCondition_op : (r.tagCondition ctx isForbidden op val).op = op := rfl
@[simp] theorem tagCondition_val : (r.tagCondition ctx isForbidden op val).val = val := rfl
@[simp] theorem tagCondition_whereOnly : (r.tagCondition ctx isForbidden op val).whereOnly = r.whereOnly := rfl

end TagCondition

/-- Only a row with a key has a condition: one of its kind, forbidden if a variable is switched off. -/
theorem normalize?_eq_some {n : Normalized} (h : r.normalize? ctx = some n) :
    r.hasKey = true ∧ ∃ isForbidden val,
      (r.kind = .metric ∧ n = .metric (r.metricCondition isForbidden r.conditionOperator val)) ∨
      (r.kind = .tag ∧ n = .tag (r.tagCondition ctx isForbidden r.conditionOperator val)) := by
  unfold normalize? at h
  cases hkey : r.hasKey with
  | false => simp [hkey] at h
  | true =>
    refine ⟨rfl, ?_⟩
    cases hkind : r.kind with
    | metric =>
      simp only [hkey, hkind, Bool.not_true, Bool.false_eq_true, if_false] at h
      split at h
      · next val _ => exact ⟨false, val, .inl ⟨rfl, (Option.some.inj h).symm⟩⟩
      · exact ⟨true, _, .inl ⟨rfl, (Option.some.inj h).symm⟩⟩
      · cases h
    | tag =>
      simp only [hkey, hkind, Bool.not_true, Bool.false_eq_true, if_false] at h
      split at h
      · next val _ => exact ⟨false, val, .inr ⟨rfl, (Option.some.inj h).symm⟩⟩
      · exact ⟨true, _, .inr ⟨rfl, (Option.some.inj h).symm⟩⟩
      · cases h

/-- The condition of a metric row with a key, as its operand makes it. -/
theorem normalize?_metric (hkey : r.hasKey = true) (hkind : r.kind = .metric) :
    r.normalize? ctx = (ctx.operand r.conditionOperator r.val).verdict?.map fun verdict =>
      .metric (r.metricCondition verdict.1 r.conditionOperator verdict.2) := by
  simp only [normalize?, hkey, hkind, Bool.not_true, Bool.false_eq_true, if_false, conditionOperator]
  cases ctx.operand (r.operator?.getD (.other "")) r.val <;> rfl

/-- A tag row with a key whose value is resolved has a condition. -/
theorem normalize?_tag {val : CondValue} (hkey : r.hasKey = true) (hkind : r.kind = .tag)
    (hval : ctx.operand r.conditionOperator r.val = .value val) :
    r.normalize? ctx = some (.tag (r.tagCondition ctx false r.conditionOperator val)) := by
  rw [conditionOperator] at hval ⊢
  simp [normalize?, hkey, hkind, hval]

/-- The condition of a tag row, unless forbidden, has the value of the row. -/
theorem operand_of_normalize? {c : Comparison} (h : r.normalize? ctx = some (.tag c))
    (hallowed : c.isForbidden = false) :
    ctx.operand r.conditionOperator r.val = .value c.val := by
  rw [conditionOperator]
  obtain ⟨hkey, _, _, ⟨-, hmetric⟩ | ⟨hkind, -⟩⟩ := normalize?_eq_some h
  · cases hmetric
  · simp only [normalize?, hkey, hkind, Bool.not_true, Bool.false_eq_true, if_false] at h
    split at h
    · next val hval =>
      cases h
      exact hval
    · cases h
      cases hallowed
    · cases h

theorem operator?_metricCondition (isForbidden : Bool) (op : Operator) (val : CondValue) :
    (r.metricCondition isForbidden op val).operator? = some op := by
  unfold metricCondition
  split
  · rfl
  · rfl

/-- The condition of a row compares by the operator of the row. -/
theorem operator?_of_normalize? {n : Normalized} (h : r.normalize? ctx = some n) :
    n.operator? = some r.conditionOperator := by
  obtain ⟨-, isForbidden, val, ⟨-, rfl⟩ | ⟨-, rfl⟩⟩ := normalize?_eq_some h
  · exact operator?_metricCondition isForbidden _ val
  · rw [Normalized.operator?, tagCondition_op]

theorem metricCondition_wellFormed (r : Row) (isForbidden : Bool) (op : Operator) (val : CondValue) :
    (Normalized.metric (r.metricCondition isForbidden op val)).WellFormed := by
  unfold metricCondition
  split
  · trivial
  · rfl

/-- A row is read as a condition of its own kind. -/
theorem normalize?_wellFormed {n : Normalized} (h : r.normalize? ctx = some n) : n.WellFormed := by
  obtain ⟨-, isForbidden, val, ⟨-, rfl⟩ | ⟨-, rfl⟩⟩ := normalize?_eq_some h
  · exact r.metricCondition_wellFormed isForbidden _ val
  · rfl

theorem wellFormed_of_mem_filterMap {rows : List Row} {n : Normalized}
    (h : n ∈ rows.filterMap fun row => row.normalize? ctx) : n.WellFormed := by
  obtain ⟨row, -, hrow⟩ := List.mem_filterMap.mp h
  exact normalize?_wellFormed hrow

end Row
end PanelQuery
