import PanelQuery.Proofs.Condition.TimeRange
import PanelQuery.Proofs.Operator
import PanelQuery.Validation

/-!
# What validation ensures

A form is without fault exactly if it satisfies each of the conditions of validation (`Form.fault?_eq_none_iff`). Its
where rows and its metric rows are then complete (`Row.IsComplete`), but a tag row of the having clause need not be.
What compares in a query does so by the operators of the rows (`exists_of_mem_joinConditions`,
`exists_mem_joinConditions`), so the conditions of a valid form are complete exactly if those tag rows are
(`Form.conditions_complete_iff`).
-/

namespace PanelQuery

open Condition (nodesOf)

/-! ## Forms without fault -/

/-- Whether a row with a key has an operator and a value. -/
def Row.IsComplete (r : Row) : Prop := r.hasKey = true → r.operator?.isSome = true ∧ r.hasValue = true

theorem Row.isComplete_iff {r : Row} : r.IsComplete ↔ r.isIncomplete = false := by
  unfold IsComplete isIncomplete
  cases r.hasKey <;> cases r.operator? <;> cases r.hasValue <;> simp

namespace Form

variable {f : Form}

/-- What validation asks of a form. -/
structure IsValid (f : Form) : Prop where
  sides : f.appType = .accessRelationship → f.hasSide .source = true ∧ f.hasSide .target = true
  selection : f.appType = .accessRelationship → ∃ row ∈ f.select, row.hasKey = true
  functions : f.isGrouped = true → ∀ row ∈ f.select ++ f.having ++ f.orderBy, row.lacksFunction = false
  metrics : ∀ row ∈ f.filter ++ f.having, row.kind = .metric → row.IsComplete
  filters : ∀ row ∈ f.filter, row.IsComplete
  /-- All selected metrics are derivatives if one is. -/
  derivatives : (∃ row ∈ f.selectedMetrics, row.isDerivative = true) →
    ∀ row ∈ f.selectedMetrics, row.isDerivative = true

theorem find?_lacksFunction_eq_none :
    (if f.isGrouped then (f.select ++ f.having ++ f.orderBy).find? Row.lacksFunction else none) = none ↔
      (f.isGrouped = true → ∀ row ∈ f.select ++ f.having ++ f.orderBy, row.lacksFunction = false) := by
  rw [ite_eq_right_iff, List.find?_eq_none]
  simp only [Bool.not_eq_true]

/-- Fewer selected metrics are derivatives than there are, but some, exactly if some are and others are not. -/
theorem mixedDerivatives_eq_false :
    (!(f.selectedMetrics.filter Row.isDerivative).isEmpty &&
        decide ((f.selectedMetrics.filter Row.isDerivative).length < f.selectedMetrics.length)) = false ↔
      ((∃ row ∈ f.selectedMetrics, row.isDerivative = true) → ∀ row ∈ f.selectedMetrics, row.isDerivative = true) := by
  have hsome : (f.selectedMetrics.filter Row.isDerivative).isEmpty = false ↔
      ∃ row ∈ f.selectedMetrics, row.isDerivative = true := by
    simp [List.isEmpty_eq_false_iff]
  have hall : ¬(f.selectedMetrics.filter Row.isDerivative).length < f.selectedMetrics.length ↔
      ∀ row ∈ f.selectedMetrics, row.isDerivative = true := by
    rw [List.length_filter_lt_length_iff_exists]
    simp
  rw [← hall, ← hsome]
  cases (f.selectedMetrics.filter Row.isDerivative).isEmpty <;> simp

/-- One test of validation: it passes, and so do all after it. -/
theorem refuse_eq_none {p : Bool} {fault : FormError} {rest : Option FormError} :
    (if p then some fault else rest) = none ↔ p = false ∧ rest = none := by
  cases p <;> simp

theorem fault?_eq_none_iff : f.fault? = none ↔ f.IsValid := by
  have hsides : (f.appType == .accessRelationship && !(f.hasSide .source && f.hasSide .target)) = false ↔
      (f.appType = .accessRelationship → f.hasSide .source = true ∧ f.hasSide .target = true) := by
    simp
  have hselection : (f.appType == .accessRelationship && !f.select.any Row.hasKey) = false ↔
      (f.appType = .accessRelationship → ∃ row ∈ f.select, row.hasKey = true) := by
    simp
  have hmetrics : ((f.filter ++ f.having).any fun row => row.isMetric && row.isIncomplete) = false ↔
      ∀ row ∈ f.filter ++ f.having, row.kind = .metric → row.IsComplete := by
    simp only [List.any_eq_false, Row.isComplete_iff, Row.isMetric]
    simp
  have hfilters : f.filter.any Row.isIncomplete = false ↔ ∀ row ∈ f.filter, row.IsComplete := by
    simp [Row.isComplete_iff]
  have hvalid : f.IsValid ↔ _ ∧ _ ∧ _ ∧ _ ∧ _ ∧ _ :=
    ⟨fun h => ⟨h.1, h.2, h.3, h.4, h.5, h.6⟩, fun ⟨h₁, h₂, h₃, h₄, h₅, h₆⟩ => ⟨h₁, h₂, h₃, h₄, h₅, h₆⟩⟩
  rw [hvalid, ← hsides, ← hselection, ← find?_lacksFunction_eq_none, ← hmetrics, ← hfilters,
    ← mixedDerivatives_eq_false]
  simp only [fault?, refuse_eq_none]
  refine and_congr_right fun _ => and_congr_right fun _ => ?_
  split
  · next row hrow => exact iff_of_false nofun fun h => nomatch hrow.symm.trans h.1
  · next hnone => simp only [hnone, refuse_eq_none, true_and, and_true]

end Form

/-! ## The operators of a query -/

/-- A condition of a metric is no group, so it is its own only node. -/
theorem eq_of_mem_nodes_metric {m n : Condition} (h : (Normalized.metric m).WellFormed) (hn : n ∈ m.nodes) : n = m := by
  match m, h, hn with
  | .leaf l, _, hn => exact Condition.mem_nodes_leaf.mp hn
  | .composed e, _, hn => exact Condition.mem_nodes_composed.mp hn

/-- A condition that compares is a node of itself. -/
theorem Condition.mem_nodes_self {m : Condition} {op : Operator} (h : m.operator? = some op) : m ∈ m.nodes := by
  match m, h with
  | .leaf l, _ => exact Condition.mem_nodes_leaf.mpr rfl
  | .composed e, _ => exact Condition.mem_nodes_composed.mpr rfl

section Operators

variable {items : List Normalized} {op : Operator}

/-- Whatever compares in the joined conditions does so by the operator of one of them. -/
theorem exists_of_mem_joinConditions (h : ∀ item ∈ items, item.WellFormed) {n : Condition}
    (hn : n ∈ nodesOf (joinConditions items)) (hop : n.operator? = some op) :
    ∃ item ∈ items, item.operator? = some op := by
  rcases mem_nodesOf_joinConditions hn with ⟨_, _, -, rfl⟩ | ⟨part, hpart, hn⟩ | ⟨m, hm, hn⟩
  · cases hop
  · rcases mem_parts.mp hpart with ⟨l, hl, rfl⟩ | ⟨c, hc, -, rfl⟩
    · obtain ⟨c, hc, -, hshare⟩ := mem_plainLeaves.mp hl
      cases Condition.mem_nodes_leaf.mp hn
      exact ⟨.tag c, hc, by rw [← hop]; exact congrArg some (Comparison.op_of_mem_leavesOn hshare).symm⟩
    · rcases mem_nodes_expandSides.mp hn with rfl | ⟨l, hl, rfl⟩
      · cases hop
      · exact ⟨.tag c, hc, by rw [← hop]; exact congrArg some (Comparison.op_of_mem_sidedLeaves hl).symm⟩
  · rw [eq_of_mem_nodes_metric (h _ hm) hn] at hop
    exact ⟨.metric m, hm, hop⟩

/-- Each condition compares among the joined ones, if not by patterns, of which there may be none. -/
theorem exists_mem_joinConditions {item : Normalized} (hitem : item ∈ items) (hop : item.operator? = some op)
    (hlike : op.isLike = false) : ∃ n ∈ nodesOf (joinConditions items), n.operator? = some op := by
  cases item with
  | tag c =>
    cases hop
    have hpattern : ¬c.HasNoPattern := fun hnone => Bool.false_ne_true (hlike.symm.trans hnone.1)
    have hkept := keptIn_joinConditions hitem hpattern
    unfold Comparison.KeptIn at hkept
    split at hkept
    · obtain ⟨l, hl, hshare⟩ := hkept "_0" List.mem_cons_self
      exact ⟨.leaf l, hl, congrArg some hshare.op_eq⟩
    · obtain ⟨l, hl, hshare⟩ := hkept
      exact ⟨.leaf l, hl, congrArg some hshare.op_eq⟩
  | metric m =>
    have hm : m ∈ joinConditions items := mem_joinConditions.mpr (.inr hitem)
    exact ⟨m, Condition.mem_nodesOf.mpr ⟨m, hm, Condition.mem_nodes_self hop⟩, hop⟩

end Operators

section Rows

variable {r : Row} {ctx : Context} {f : Form}

/-- Only a blank operator leaves a condition without one. -/
theorem Row.conditionOperator_text_eq_empty_iff : r.conditionOperator.text = "" ↔ r.operator?.isSome = false := by
  unfold Row.conditionOperator
  cases hop : r.operator? with
  | none => simp [Operator.text]
  | some op => simpa using Row.text_ne_empty_of_operator? hop

/-- Without variables a value is taken as it is. -/
theorem VarContext.resolveItem_empty (item : ValueItem) (op : Option Operator) :
    VarContext.empty.resolveItem item op = .one item.value := by
  have hnone : ∀ name raw, VarContext.empty.resolve? name raw op = none := fun _ _ => rfl
  unfold resolveItem
  cases item.variableName? with
  | none => rfl
  | some name => simp [hnone]

/-- Without variables every row with a key has a condition. -/
theorem Row.exists_normalize?_empty (hkey : r.hasKey = true) :
    ∃ n, r.normalize? { VarContext.empty with } = some n := by
  have hvalue : ∀ op val, ∃ v, Context.operand { VarContext.empty with } op val = .value v := by
    intro op val
    match val with
    | none => exact ⟨_, rfl⟩
    | some (.single item) => exact ⟨_, congrArg RowOperand.ofResolved (VarContext.resolveItem_empty item _)⟩
    | some (.list items) =>
      have hitems : items.map (fun item => VarContext.empty.resolveItem item (some op)) =
          items.map fun item => .one item.value :=
        List.map_congr_left fun item _ => VarContext.resolveItem_empty item _
      show ∃ v, RowOperand.ofList (items.map fun item => VarContext.empty.resolveItem item (some op)) = .value v
      rw [hitems, RowOperand.ofList, if_neg (by simp), if_neg (by simp)]
      exact ⟨_, rfl⟩
  obtain ⟨v, hv⟩ := hvalue (r.operator?.getD (.other "")) r.val
  simp only [normalize?, hkey, hv]
  exact ⟨_, rfl⟩

theorem Row.isSome_operator?_iff : r.operator?.isSome = true ↔ Text.trim r.op ≠ "" := by
  simp only [Row.operator?]
  split
  · next hblank => simpa using hblank
  · next hblank => simpa using hblank

theorem isSome_operator?_of_mem_timeBounds (h : r ∈ timeBounds) : r.operator?.isSome = true := by
  refine Row.isSome_operator?_iff.mpr ?_
  rcases List.mem_cons.mp h with rfl | h
  · decide
  · rw [List.mem_singleton.mp h]
    decide

/-- The comparisons of a query have operators in every context exactly if the rows with a key have. -/
theorem Form.operators_complete_iff :
    (∀ ctx, ∀ n ∈ nodesOf (f.compile ctx).condition, ∀ op, n.operator? = some op → op.text ≠ "") ↔
      ∀ row ∈ f.filter ++ f.having, row.hasKey = true → row.operator?.isSome = true := by
  constructor
  · intro h row hrow hkey
    refine Option.isSome_iff_ne_none.mpr fun hnone => ?_
    have hop : row.conditionOperator = .other "" := by rw [Row.conditionOperator, hnone]; rfl
    obtain ⟨item, hitem⟩ := Row.exists_normalize?_empty hkey
    have hmem : item ∈ f.conditionRows.filterMap fun row => row.normalize? { VarContext.empty with } :=
      List.mem_filterMap.mpr ⟨row, Form.mem_conditionRows.mpr (.inl hrow), hitem⟩
    obtain ⟨n, hn, hnop⟩ := exists_mem_joinConditions hmem (Row.operator?_of_normalize? hitem) (by rw [hop]; rfl)
    exact h _ n hn _ hnop (by rw [hop]; rfl)
  · intro h ctx n hn op hop
    obtain ⟨item, hitem, hitemop⟩ := exists_of_mem_joinConditions (fun _ => Row.wellFormed_of_mem_filterMap) hn hop
    obtain ⟨row, hrow, hnormal⟩ := List.mem_filterMap.mp hitem
    have hkey : row.hasKey = true := (Row.normalize?_eq_some hnormal).1
    have hsome : row.operator?.isSome = true := by
      rcases Form.mem_conditionRows.mp hrow with hrow | hrow
      · exact h row hrow hkey
      · exact isSome_operator?_of_mem_timeBounds hrow
    rw [Row.operator?_of_normalize? hnormal, Option.some.injEq] at hitemop
    rw [← hitemop]
    exact fun htext => by simp [Row.conditionOperator_text_eq_empty_iff.mp htext] at hsome

/-- What complete rows have, the rows of a valid form have except for tag rows of its having clause. -/
theorem Form.IsValid.forall_iff (h : f.IsValid) {p : Row → Prop} (hp : ∀ row : Row, row.IsComplete → p row) :
    (∀ row ∈ f.filter ++ f.having, p row) ↔ ∀ row ∈ f.having, row.kind = .tag → p row := by
  constructor
  · exact fun hall row hrow _ => hall row (List.mem_append_right _ hrow)
  · intro htags row hrow
    cases hkind : row.kind with
    | metric => exact hp row (h.metrics row hrow hkind)
    | tag =>
      rcases List.mem_append.mp hrow with hfilter | hhaving
      · exact hp row (h.filters row hfilter)
      · exact htags row hhaving hkind

/-- **Which conditions validation completes.** The where and having rows of a valid form are complete exactly if the tag
rows of its having clause are, which validation does not ask for; and in every context all comparisons of the query have
an operator exactly if those rows have one. -/
theorem Form.conditions_complete_iff (h : f.fault? = none) :
    ((∀ row ∈ f.filter ++ f.having, row.IsComplete) ↔ ∀ row ∈ f.having, row.kind = .tag → row.IsComplete) ∧
    ((∀ ctx, ∀ n ∈ nodesOf (f.compile ctx).condition, ∀ op, n.operator? = some op → op.text ≠ "") ↔
      ∀ row ∈ f.having, row.kind = .tag → row.hasKey = true → row.operator?.isSome = true) := by
  have hvalid := Form.fault?_eq_none_iff.mp h
  refine ⟨hvalid.forall_iff fun _ hrow => hrow, ?_⟩
  rw [Form.operators_complete_iff]
  exact hvalid.forall_iff fun _ hrow hkey => (hrow hkey).1

/-- A bare tag in the having clause passes validation and makes a comparison without an operator. -/
theorem Form.conditions_complete_not :
    let f : Form := { Form.new .trafficQuery with having := [Row.tag "pod"] }
    f.fault? = none ∧ ¬(∀ row ∈ f.filter ++ f.having, row.IsComplete) ∧
      ¬∀ ctx, ∀ n ∈ nodesOf (f.compile ctx).condition, ∀ op, n.operator? = some op → op.text ≠ "" := by
  intro f
  have hfault : f.fault? = none := rfl
  have hpod : Row.tag "pod" ∈ f.having := List.mem_cons_self
  refine ⟨hfault, fun hrows => ?_, fun hconditions => ?_⟩
  · have hop := ((Form.conditions_complete_iff hfault).1.mp hrows _ hpod rfl rfl).1
    exact Row.isSome_operator?_iff.mp hop rfl
  · have hop := (Form.conditions_complete_iff hfault).2.mp hconditions _ hpod rfl rfl
    exact Row.isSome_operator?_iff.mp hop rfl

end Rows

end PanelQuery
