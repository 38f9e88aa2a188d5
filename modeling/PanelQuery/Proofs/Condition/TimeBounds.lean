import PanelQuery.Proofs.Condition.TimeRange

/-!
# Which bounds of time a query keeps

The bounds of the time range have the shape of references to variables, and are resolved like the values of rows. A
reference stands for itself (`VarContext.Leaves`) unless a variable of its name is declared with a kind and another
choice (`VarContext.resolveItem_eq_self_iff`). So a query compares `time` with a bound exactly if the variables leave
that bound alone, or a row of the form makes the same comparison (`Form.timeBounds_kept_iff`).
-/

namespace PanelQuery

open Condition (nodesOf)

/-! ## References that stand for themselves -/

/-- Whether a text has none of the sentinels in it. -/
structure IsFreeOfSentinels (text : String) : Prop where
  all : Text.contains text allSentinel = false
  disabled : Text.contains text disabledSentinel = false
  any : text ≠ anySentinel

/-- Among values, only a text without sentinels is picked as that text. -/
theorem VarContext.pick_eq_one_iff {declared : Variable} {current : Current} {text : String}
    (h : IsFreeOfSentinels text) :
    pick declared current false = .one (.text text) ↔ current.value = .one (.text text) := by
  have hresolved : ∀ v : VarValue, v.resolved = .one (.text text) ↔ v = .one (.text text) := by
    intro v
    cases v <;> simp [VarValue.resolved]
  constructor
  · intro hpick
    unfold pick at hpick
    split at hpick
    · exact (hresolved _).mp hpick
    · split at hpick
      · cases hpick
      · split at hpick
        · cases hpick
        · split at hpick
          · cases hpick
          · cases hvalue : current.value with
            | one value => simpa [hvalue, VarValue.resolvedReal] using hpick
            | many values => simp [hvalue, VarValue.resolvedReal] at hpick
  · intro hvalue
    have hany : ¬(Scalar.text text == .text anySentinel) = true := by simpa using h.any
    simp [pick, hvalue, VarValue.mentions, VarValue.isAny, VarValue.resolved, VarValue.resolvedReal, Scalar.text?,
      h.all, h.disabled, hany]

namespace VarContext

variable {ctx : VarContext} {name text : String}

/-- Whether variables leave a reference alone: its variable is not declared, has no kind, or has the reference itself
for its value. -/
def Leaves (ctx : VarContext) (name text : String) : Prop :=
  ∀ v, ctx.declared? name = some v → v.kind.isSome = true → (ctx.current v name (.text text)).value = .one (.text text)

/-- A reference is kept as it is written exactly if the context leaves its name alone. -/
theorem resolveItem_eq_self_iff {op : Operator} (hname : reference? text = some name) (hfree : IsFreeOfSentinels text)
    (hlike : op.isLike = false) :
    ctx.resolveItem (.literal (.text text)) (some op) = .one (.text text) ↔ ctx.Leaves name text := by
  have hitem : (ValueItem.literal (.text text)).variableName? = some name := by
    simp [ValueItem.variableName?, ValueItem.value, Scalar.text?, hname]
  unfold Leaves
  rw [resolveItem, hitem, Option.bind_some]
  cases hdeclared : ctx.declared? name with
  | none => simp [resolve?, hdeclared, ValueItem.value]
  | some v =>
    cases hkind : v.kind with
    | none => simp [resolve?, hdeclared, hkind, ValueItem.value]
    | some kind => simp [resolve?, hdeclared, hkind, hlike, ValueItem.value, pick_eq_one_iff hfree]

end VarContext

/-! ## Comparisons with a bound -/

/-- Whether a comparison is one of `time` with a bound, in force and not of a metric. -/
structure Comparison.IsTimeBound (op : Operator) (placeholder : String) (c : Comparison) : Prop where
  allowed : c.isForbidden = false
  kind : c.kind = .tag
  key : c.key = "time"
  op_eq : c.op = op
  val : c.val = .one (.text placeholder)

/-- An operand is a single value exactly if that is what its item was resolved to. -/
theorem RowOperand.ofResolved_eq_value_iff {r : Resolved} {s : Scalar} :
    RowOperand.ofResolved r = .value (.one s) ↔ r = .one s := by
  cases r <;> simp [RowOperand.ofResolved]

/-- A bound becomes a comparison with itself exactly if the variables leave it alone. -/
theorem exists_normalize?_timeBound_iff {ctx : Context} {op placeholder name : String} {o : Operator}
    (hop : (timeBound op placeholder).conditionOperator = o) (hname : reference? placeholder = some name)
    (hfree : IsFreeOfSentinels placeholder) (hlike : o.isLike = false) :
    (∃ c, (timeBound op placeholder).normalize? ctx = some (.tag c) ∧ c.IsTimeBound o placeholder) ↔
      ctx.Leaves name placeholder := by
  have hoperand : ctx.operand o (timeBound op placeholder).val = .value (.one (.text placeholder)) ↔
      ctx.Leaves name placeholder :=
    RowOperand.ofResolved_eq_value_iff.trans (VarContext.resolveItem_eq_self_iff hname hfree hlike)
  rw [← hoperand]
  constructor
  · rintro ⟨c, hc, hbound⟩
    rw [← hop, Row.operand_of_normalize? hc hbound.allowed, hbound.val]
  · intro h
    exact ⟨_, Row.normalize?_tag rfl rfl (hop ▸ h), Row.tagCondition_isForbidden, Row.tagCondition_kind, rfl,
      Row.tagCondition_op.trans hop, Row.tagCondition_val⟩

section Joined

variable {items : List Normalized} {l c : Comparison}

/-- No column of a side is `time`. -/
theorem Comparison.sideColumn_ne_time {ending : String} (hending : ending ∈ sideEndings)
    (hids : c.op.matchesIds = false) :
    c.sideColumn ending ≠ "time" := by
  intro hkey
  have hlast : (c.key ++ ending).toList.getLast? = some 'e' := by
    simp only [Comparison.sideColumn, ← Operator.matchesIds_iff, hids, Bool.false_eq_true, false_and, if_false] at hkey
    rw [hkey]
    rfl
  rcases List.mem_cons.mp hending with rfl | hending
  · simp [String.toList_append] at hlast
  · rw [List.mem_singleton.mp hending] at hlast
    simp [String.toList_append] at hlast

/-- A query compares `time` with a bound exactly if a condition on that column alone does. -/
theorem exists_mem_nodesOf_timeBound_iff {op : Operator} {placeholder : String} (h : ∀ item ∈ items, item.WellFormed)
    (hlike : op.isLike = false) (hids : op.matchesIds = false) :
    (∃ l, .leaf l ∈ nodesOf (joinConditions items) ∧ l.IsTimeBound op placeholder) ↔
      ∃ c, .tag c ∈ items ∧ c.whereOnly = false ∧ c.IsTimeBound op placeholder := by
  constructor
  · rintro ⟨l, hl, hbound⟩
    have hllike : l.op.isLike = false := by rw [hbound.op_eq, hlike]
    rcases mem_nodesOf_joinConditions hl with ⟨_, _, -, hgroup⟩ | ⟨part, hpart, hn⟩ | ⟨m, hm, hn⟩
    · cases hgroup
    · rcases mem_parts.mp hpart with ⟨l', hl', rfl⟩ | ⟨c, hc, -, rfl⟩
      · obtain ⟨c, hc, hplain, hshare⟩ := mem_plainLeaves.mp hl'
        cases Condition.mem_nodes_leaf.mp hn
        obtain rfl := Comparison.eq_of_mem_leavesOn hshare hllike
        exact ⟨c, hc, hplain, hbound⟩
      · rcases mem_nodes_expandSides.mp hn with hgroup | ⟨l', hl', heq⟩
        · cases hgroup
        · cases heq
          obtain ⟨ending, hending, hshare⟩ := Comparison.mem_sidedLeaves.mp hl'
          have hcids : c.op.matchesIds = false := by
            rw [← Comparison.op_of_mem_leavesOn hshare, hbound.op_eq, hids]
          have hkey := (Comparison.key_of_mem_leavesOn hshare).symm.trans hbound.key
          exact absurd hkey (Comparison.sideColumn_ne_time hending hcids)
    · rcases mem_nodes_metric (h _ hm) hn with ⟨_, heq, hmetric⟩ | ⟨_, heq⟩
      · cases heq
        cases hbound.kind.symm.trans hmetric
      · cases heq
  · rintro ⟨c, hc, hplain, hbound⟩
    have hleaf := mem_plainLeaves.mpr ⟨c, hc, hplain, Comparison.mem_leavesOn_self (hbound.op_eq ▸ hlike)⟩
    exact ⟨c, mem_nodesOf_of_part (mem_parts.mpr (.inl ⟨c, hleaf, rfl⟩)) (Condition.mem_nodes_leaf.mpr rfl), hbound⟩

end Joined

/-! ## Queries -/

section Query

variable {f : Form} {ctx : Context}

theorem timeFromPlaceholder_free : IsFreeOfSentinels timeFromPlaceholder := ⟨by decide, by decide, by decide⟩

theorem timeToPlaceholder_free : IsFreeOfSentinels timeToPlaceholder := ⟨by decide, by decide, by decide⟩

theorem conditionOperator_lower : (timeBound ">=" timeFromPlaceholder).conditionOperator = .atLeast := rfl

theorem conditionOperator_upper : (timeBound "<=" timeToPlaceholder).conditionOperator = .atMost := rfl

/-- Of the bounds that are put, one is the lower. -/
theorem timeBounds_only_lower (bound : Row) :
    bound ∈ timeBounds ∧ bound.conditionOperator = .atLeast ↔ bound = timeBound ">=" timeFromPlaceholder := by
  constructor
  · rintro ⟨hmem, hop⟩
    rcases List.mem_cons.mp hmem with rfl | hmem
    · rfl
    · rw [List.mem_singleton.mp hmem, conditionOperator_upper] at hop
      cases hop
  · rintro rfl
    exact ⟨List.mem_cons_self, conditionOperator_lower⟩

/-- Of the bounds that are put, one is the upper. -/
theorem timeBounds_only_upper (bound : Row) :
    bound ∈ timeBounds ∧ bound.conditionOperator = .atMost ↔ bound = timeBound "<=" timeToPlaceholder := by
  constructor
  · rintro ⟨hmem, hop⟩
    rcases List.mem_cons.mp hmem with rfl | hmem
    · rw [conditionOperator_lower] at hop
      cases hop
    · exact List.mem_singleton.mp hmem
  · rintro rfl
    exact ⟨List.mem_cons_of_mem _ List.mem_cons_self, conditionOperator_upper⟩

/-- The tag conditions of a query are those of the bounds and those of the form's own rows. -/
theorem tag_mem_items_iff {c : Comparison} :
    .tag c ∈ f.conditionRows.filterMap (fun row => row.normalize? ctx) ↔
      (∃ bound ∈ timeBounds, bound.normalize? ctx = some (.tag c)) ∨ .tag c ∈ f.ownItems ctx := by
  simp only [Form.ownItems, List.mem_filterMap, Form.mem_conditionRows]
  constructor
  · rintro ⟨row, hown | hbound, hc⟩
    · exact .inr ⟨row, hown, hc⟩
    · exact .inl ⟨row, hbound, hc⟩
  · rintro (⟨row, hbound, hc⟩ | ⟨row, hown, hc⟩)
    · exact ⟨row, .inr hbound, hc⟩
    · exact ⟨row, .inl hown, hc⟩

/-- The condition of a bound is on one column. -/
theorem whereOnly_of_normalize?_timeBound {op placeholder : String} {c : Comparison}
    (h : (timeBound op placeholder).normalize? ctx = some (.tag c)) : c.whereOnly = false := by
  obtain ⟨-, _, _, ⟨-, hmetric⟩ | ⟨-, htag⟩⟩ := Row.normalize?_eq_some h
  · cases hmetric
  · rw [Normalized.tag.injEq] at htag
    rw [htag, Row.tagCondition_whereOnly]
    rfl

/-- The conditions that compare with one of the bounds: it itself, if it is left alone, and conditions of the form. -/
theorem exists_timeBound_mem_items_iff {op placeholder name : String} {o : Operator}
    (honly : ∀ bound, bound ∈ timeBounds ∧ bound.conditionOperator = o ↔ bound = timeBound op placeholder)
    (hname : reference? placeholder = some name) (hfree : IsFreeOfSentinels placeholder) (hlike : o.isLike = false) :
    (∃ c, .tag c ∈ f.conditionRows.filterMap (fun row => row.normalize? ctx) ∧ c.whereOnly = false ∧
        c.IsTimeBound o placeholder) ↔
      ctx.Leaves name placeholder ∨
        ∃ c, .tag c ∈ f.ownItems ctx ∧ c.whereOnly = false ∧ c.IsTimeBound o placeholder := by
  obtain ⟨hmem, hop⟩ := (honly (timeBound op placeholder)).mpr rfl
  rw [← exists_normalize?_timeBound_iff hop hname hfree hlike]
  constructor
  · rintro ⟨c, hc, hplain, hbound⟩
    rcases tag_mem_items_iff.mp hc with ⟨bound, hin, hc⟩ | hown
    · have hsame : bound.conditionOperator = o :=
        (Option.some.inj (Row.operator?_of_normalize? hc)).symm.trans hbound.op_eq
      rw [(honly bound).mp ⟨hin, hsame⟩] at hc
      exact .inl ⟨c, hc, hbound⟩
    · exact .inr ⟨c, hown, hplain, hbound⟩
  · rintro (⟨c, hc, hbound⟩ | ⟨c, hown, hplain, hbound⟩)
    · exact ⟨c, tag_mem_items_iff.mpr (.inl ⟨_, hmem, hc⟩), whereOnly_of_normalize?_timeBound hc, hbound⟩
    · exact ⟨c, tag_mem_items_iff.mpr (.inr hown), hplain, hbound⟩

/-- **Which bounds of time a query keeps.** It compares `time` with a bound exactly if the variables leave the bound
alone or a row of the form makes such a comparison. -/
theorem Form.timeBounds_kept_iff (f : Form) (ctx : Context) :
    ((∃ l, .leaf l ∈ nodesOf (f.compile ctx).condition ∧ l.IsTimeBound .atLeast timeFromPlaceholder) ↔
      ctx.Leaves "__from" timeFromPlaceholder ∨
        ∃ c, .tag c ∈ f.ownItems ctx ∧ c.whereOnly = false ∧ c.IsTimeBound .atLeast timeFromPlaceholder) ∧
    ((∃ l, .leaf l ∈ nodesOf (f.compile ctx).condition ∧ l.IsTimeBound .atMost timeToPlaceholder) ↔
      ctx.Leaves "__to" timeToPlaceholder ∨
        ∃ c, .tag c ∈ f.ownItems ctx ∧ c.whereOnly = false ∧ c.IsTimeBound .atMost timeToPlaceholder) := by
  have hwf : ∀ item ∈ f.conditionRows.filterMap (fun row => row.normalize? ctx), item.WellFormed :=
    fun _ => Row.wellFormed_of_mem_filterMap
  have hlower : reference? timeFromPlaceholder = some "__from" := rfl
  have hupper : reference? timeToPlaceholder = some "__to" := rfl
  exact ⟨(exists_mem_nodesOf_timeBound_iff hwf rfl rfl).trans
      (exists_timeBound_mem_items_iff timeBounds_only_lower hlower timeFromPlaceholder_free rfl),
    (exists_mem_nodesOf_timeBound_iff hwf rfl rfl).trans
      (exists_timeBound_mem_items_iff timeBounds_only_upper hupper timeToPlaceholder_free rfl)⟩

/-- A variable with the name of a bound that matches anything drops the bound. -/
theorem Form.timeBounds_kept_not :
    let start : Variable :=
      ⟨"__from", some "custom", some ⟨.one (.text anySentinel), .one (.text "Any")⟩, [], none, none⟩
    let ctx : Context := { declared := [start], bindings := [] }
    ¬∃ l, .leaf l ∈ nodesOf ((Form.new .trafficQuery).compile ctx).condition ∧
      l.IsTimeBound .atLeast timeFromPlaceholder := by
  intro start ctx hkept
  rcases (Form.timeBounds_kept_iff (Form.new .trafficQuery) ctx).1.mp hkept with hleaves | ⟨c, hc, -⟩
  · exact absurd (hleaves start rfl rfl) (by decide)
  · cases hc

end Query

end PanelQuery
