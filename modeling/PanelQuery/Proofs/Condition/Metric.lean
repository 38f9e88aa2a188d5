import PanelQuery.Proofs.Condition.Join
import PanelQuery.Proofs.Condition.Normal
import PanelQuery.Proofs.Expression

/-!
# Conditions of metrics

Joining leaves the conditions of metrics as they are: they are what is no group in the joined conditions
(`ungrouped_joinConditions`). The condition of a metric is a comparison of its column, or of an expression where
functions are chained, and tells what the row applies to its key (`Row.metricCondition_eq_iff`).
-/

namespace PanelQuery

/-! ## Joined conditions -/

/-- Whether a condition joins others. -/
def Condition.isGroup : Condition → Bool
  | group _ _ => true
  | leaf _ => false
  | composed _ => false

/-- The node of a key is a group, however few its parts are. -/
theorem isGroup_keyGroup (parts : List TagPart) : (keyGroup parts).isGroup = true := by
  unfold keyGroup
  split
  · next g hgroups =>
    have hmem : g ∈ classGroups parts := by rw [hgroups]; exact List.mem_cons_self
    obtain ⟨part, -, rfl⟩ := mem_classGroups.mp hmem
    rfl
  · rfl

theorem Normalized.WellFormed.isGroup_eq {m : Condition} (h : (Normalized.metric m).WellFormed) :
    m.isGroup = false := by
  cases m with
  | leaf c => rfl
  | composed c => rfl
  | group op members => exact absurd h id

/-- What is no group in joined conditions are the conditions of the metrics. -/
theorem ungrouped_joinConditions {items : List Normalized} (h : ∀ item ∈ items, item.WellFormed) :
    (joinConditions items).filter (fun c => !c.isGroup) = items.filterMap Normalized.metric? := by
  have hmetrics : (items.filterMap Normalized.metric?).filter (fun c => !c.isGroup) =
      items.filterMap Normalized.metric? := by
    refine List.filter_eq_self.mpr fun m hm => ?_
    simp [(h _ (mem_filterMap_metric?.mp hm)).isGroup_eq]
  rw [joinConditions, List.filter_append, hmetrics]
  refine List.append_left_eq_self.mpr (List.filter_eq_nil_iff.mpr fun c hc => ?_)
  obtain ⟨⟨key, parts⟩, -, rfl⟩ := List.mem_map.mp hc
  simp [isGroup_keyGroup]

/-! ## Rows -/

namespace Row

variable {r s : Row}

/-- A row has no chain exactly if it has no further functions, and lacks its own function or one before that. -/
theorem chain_eq_nil_iff : r.chain = [] ↔ r.subFuncs = [] ∧ (r.preFunc.isEmpty || r.func.isEmpty) = true := by
  unfold chain
  cases r.preFunc.isEmpty || r.func.isEmpty <;> simp

/-- The condition of a metric row without a chain is a comparison of its column. -/
theorem metricCondition_of_chain_eq_nil {isForbidden : Bool} {op : Operator} {val : CondValue} (h : r.chain = []) :
    r.metricCondition isForbidden op val =
      .leaf { isForbidden, kind := .metric, key := r.realKey, func := r.func, op, val, params := r.comparisonParams,
              preFunc := r.preFunc } := by
  obtain ⟨hsub, hpre⟩ := chain_eq_nil_iff.mp h
  refine if_neg ?_
  rw [hsub, ← Bool.not_or, hpre]
  exact Bool.false_ne_true

/-- The condition of a metric row with a chain is a comparison of its expression. -/
theorem metricCondition_of_chain_ne_nil {isForbidden : Bool} {op : Operator} {val : CondValue} (h : r.chain ≠ []) :
    r.metricCondition isForbidden op val = .composed { isForbidden, op, expr := r.composeAs "", val } := by
  refine if_pos ?_
  have hchain := mt chain_eq_nil_iff.mpr h
  by_cases hsub : r.subFuncs = []
  · simpa [hsub] using hchain
  · simp [hsub]

/-- Whether two rows apply the same to their keys in a comparison, where one bare parameter counts as a list of it. -/
def ComparesAs (r s : Row) : Prop :=
  (r.chain = [] ∧ s.chain = [] ∧ r.func = s.func ∧ r.comparisonParams = s.comparisonParams) ∨
    (r.chain ≠ [] ∧ s.chain ≠ [] ∧ r.AppliesAs s)

instance : Decidable (ComparesAs r s) := inferInstanceAs (Decidable (_ ∨ _))

/-- Conditions of metric rows on one key are the same exactly if the rows apply the same to it. -/
theorem metricCondition_eq_iff {isForbidden : Bool} {op : Operator} {val : CondValue} (hkey : r.realKey = s.realKey)
    (hpre : r.preFunc = s.preFunc) :
    r.metricCondition isForbidden op val = s.metricCondition isForbidden op val ↔ r.ComparesAs s := by
  unfold ComparesAs
  by_cases hr : r.chain = [] <;> by_cases hs : s.chain = []
  · simp [metricCondition_of_chain_eq_nil, hr, hs, hkey, hpre]
  · simp [metricCondition_of_chain_eq_nil, metricCondition_of_chain_ne_nil, hr, hs]
  · simp [metricCondition_of_chain_eq_nil, metricCondition_of_chain_ne_nil, hr, hs]
  · simp [metricCondition_of_chain_ne_nil, hr, hs, composeAs_eq_iff, hkey]

end Row
end PanelQuery
