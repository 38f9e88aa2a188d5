import PanelQuery.Editor.Sanitize
import PanelQuery.Payload
import PanelQuery.Proofs.Condition.Metric

/-!
# Rows picked from a row of the select clause

A row of an order or of a condition may refer to a row of the select clause. Only the key of that reference is read: no
part of a query changes if its functions are left out (`Row.compilesAs_forgetFunctions`). What a row applies to the key
is its own, so that it stands for the row that it was picked from exactly if it applies the same
(`Form.compile_following_iff`).
-/

namespace PanelQuery

/-! ## Rows that make the same of a query -/

/-- Whether two rows make the same of every part of a query. -/
structure Row.CompilesAs (r s : Row) : Prop where
  kind : r.kind = s.kind
  hasKey : r.hasKey = s.hasKey
  selection : r.selection = s.selection
  grouping : r.grouping = s.grouping
  ordering : r.ordering = s.ordering
  normalize? : ∀ ctx, r.normalize? ctx = s.normalize? ctx

section Mapping

variable {g : Row → Row}

theorem map_filter_hasKey_map {β : Type} {part : Row → β} (h : ∀ r, (g r).CompilesAs r)
    (hpart : ∀ r, part (g r) = part r) (rows : List Row) :
    ((rows.map g).filter Row.hasKey).map part = (rows.filter Row.hasKey).map part := by
  have hkey : Row.hasKey ∘ g = Row.hasKey := funext fun r => (h r).hasKey
  have hparts : part ∘ g = part := funext hpart
  rw [List.filter_map, List.map_map, hkey, hparts]

theorem filterMap_normalize?_map (h : ∀ r, (g r).CompilesAs r) (ctx : Context) (rows : List Row) :
    (rows.map g).filterMap (fun row => row.normalize? ctx) = rows.filterMap fun row => row.normalize? ctx := by
  rw [List.filterMap_map]
  exact congrArg (List.filterMap · rows) (funext fun r => (h r).normalize? ctx)

/-- Rows may be replaced by rows that make the same of a query. -/
theorem Form.compile_mapRows {g : Clause → Row → Row} (h : ∀ c r, (g c r).CompilesAs r) (f : Form) (ctx : Context) :
    (f.mapRows g).compile ctx = f.compile ctx := by
  have hselections : ∀ kind, (f.mapRows g).selections kind = f.selections kind := by
    intro kind
    have htest : (fun row : Row => row.hasKey && row.kind == kind) ∘ g .select =
        fun row => row.hasKey && row.kind == kind :=
      funext fun r => by rw [Function.comp_apply, (h .select r).hasKey, (h .select r).kind]
    have hselection : Row.selection ∘ g .select = Row.selection := funext fun r => (h .select r).selection
    unfold selections mapRows
    rw [List.filter_map, List.map_map, htest, hselection]
  have hcondition : (f.mapRows g).condition ctx = f.condition ctx := by
    unfold condition conditionRows mapRows
    simp only [List.filterMap_append, filterMap_normalize?_map (h .filter), filterMap_normalize?_map (h .having)]
  have hlimit : (f.mapRows g).seriesLimit? = f.seriesLimit? := by
    have hkey : Row.hasKey ∘ g .groupBy = Row.hasKey := funext fun r => (h .groupBy r).hasKey
    unfold seriesLimit? mapRows
    rw [List.any_map, hkey]
  have hgroupings := map_filter_hasKey_map (h .groupBy) (fun r => (h .groupBy r).grouping) f.groupBy
  have horderings := map_filter_hasKey_map (h .orderBy) (fun r => (h .orderBy r).ordering) f.orderBy
  unfold compile
  rw [hselections, hselections, hcondition, hlimit]
  simp only [mapRows, hgroupings, horderings]
  rfl

end Mapping

/-! ## References -/

/-- The reference to a key alone. -/
def SelectRef.keyOnly (ref : SelectRef) : SelectRef := { ref with func := "", params := .empty, subFuncs := [] }

namespace Row

/-- The row with the functions of its reference left out. -/
def forgetFunctions (r : Row) : Row := { r with fromSelect := r.fromSelect.map SelectRef.keyOnly }

theorem realKey_forgetFunctions (r : Row) : r.forgetFunctions.realKey = r.realKey := by
  unfold realKey forgetFunctions
  cases r.fromSelect <;> rfl

/-- The functions of a reference have no part in a query. -/
theorem compilesAs_forgetFunctions (r : Row) : r.forgetFunctions.CompilesAs r := by
  have hkey := realKey_forgetFunctions r
  have hcompose : ∀ name, r.forgetFunctions.composeAs name = r.composeAs name := by
    intro name
    unfold composeAs
    rw [hkey]
    rfl
  constructor
  · rfl
  · rw [hasKey, hasKey, hkey]
  · rw [selection, selection, compose, compose, hkey, hcompose]
    rfl
  · rw [grouping, grouping, hkey]
    rfl
  · rw [ordering, ordering, hkey, hcompose]
    rfl
  · intro ctx
    unfold normalize? hasKey metricCondition tagCondition
    simp only [hkey, hcompose]
    rfl

/-- The row with the key and the functions of a row of the select clause for its own. -/
def following (r : Row) (ref : SelectRef) : Row :=
  { r with key := ref.key, func := ref.func, params := ref.params, subFuncs := ref.subFuncs, fromSelect := none }

variable {r : Row} {ref : SelectRef}

theorem realKey_of_fromSelect (href : r.fromSelect = some ref) (hkey : ref.key ≠ "") : r.realKey = ref.key := by
  simp [realKey, href, hkey]

theorem hasKey_of_fromSelect (href : r.fromSelect = some ref) (hkey : ref.key ≠ "") : r.hasKey = true := by
  simp [hasKey, realKey_of_fromSelect href hkey, hkey]

theorem realKey_following : (r.following ref).realKey = ref.key := rfl

theorem hasKey_following (hkey : ref.key ≠ "") : (r.following ref).hasKey = true := by
  simp [hasKey, realKey_following, hkey]

end Row

/-! ## Picked rows in a query -/

section Picked

variable {f : Form} {ctx : Context} {r s : Row} {rows others before after : List Row} {ref : SelectRef}

/-- Only the order of a query depends on the rows of its order-by clause. -/
theorem compile_setRows_orderBy_iff :
    (f.setRows .orderBy rows).compile ctx = (f.setRows .orderBy others).compile ctx ↔
      (rows.filter Row.hasKey).map Row.ordering = (others.filter Row.hasKey).map Row.ordering := by
  constructor
  · exact congrArg Payload.orderBy
  · intro h
    unfold Form.compile
    simp only [Form.setRows, h]
    rfl

/-- Only the condition of a query depends on the rows of its where and having clauses. -/
theorem compile_setRows_condition_iff {c : Clause} (hc : c = .filter ∨ c = .having) :
    (f.setRows c rows).compile ctx = (f.setRows c others).compile ctx ↔
      (f.setRows c rows).condition ctx = (f.setRows c others).condition ctx := by
  constructor
  · exact congrArg Payload.condition
  · intro h
    unfold Form.compile
    rw [h]
    rcases hc with rfl | rfl <;> rfl

/-- One of the rows of an order makes the difference that its entry makes. -/
theorem orderings_eq_iff (hr : r.hasKey = true) (hs : s.hasKey = true) :
    ((before ++ r :: after).filter Row.hasKey).map Row.ordering =
        ((before ++ s :: after).filter Row.hasKey).map Row.ordering ↔ r.ordering = s.ordering := by
  simp [List.filter_append, hr, hs]

/-- One of the metrics of joined conditions makes the difference that its own condition makes. -/
theorem joinConditions_replace_iff {items more : List Normalized} {m m' : Condition}
    (hm : (Normalized.metric m).WellFormed) (hm' : (Normalized.metric m').WellFormed)
    (hitems : ∀ item ∈ items, item.WellFormed) (hmore : ∀ item ∈ more, item.WellFormed) :
    joinConditions (items ++ .metric m :: more) = joinConditions (items ++ .metric m' :: more) ↔ m = m' := by
  have hwell : ∀ {m : Condition}, (Normalized.metric m).WellFormed →
      ∀ item ∈ items ++ .metric m :: more, item.WellFormed := by
    intro m hm item hitem
    rcases List.mem_append.mp hitem with hitem | hitem
    · exact hitems item hitem
    · rcases List.mem_cons.mp hitem with rfl | hitem
      · exact hm
      · exact hmore item hitem
  constructor
  · intro h
    have hmetrics := congrArg (List.filter fun c => !c.isGroup) h
    rw [ungrouped_joinConditions (hwell hm), ungrouped_joinConditions (hwell hm')] at hmetrics
    simpa [Normalized.metric?] using hmetrics
  · rintro rfl
    rfl

/-- A metric row makes the difference to a condition that its own condition makes, if it has one. -/
theorem conditions_eq_iff (hr : r.hasKey = true) (hs : s.hasKey = true) (hrkind : r.kind = .metric)
    (hskind : s.kind = .metric) (hkey : r.realKey = s.realKey) (hpre : r.preFunc = s.preFunc) (hop : r.op = s.op)
    (hval : r.val = s.val) :
    joinConditions ((before ++ r :: after).filterMap fun row => row.normalize? ctx) =
        joinConditions ((before ++ s :: after).filterMap fun row => row.normalize? ctx) ↔
      ctx.operand r.conditionOperator r.val = .any ∨ r.ComparesAs s := by
  have hoperator : s.conditionOperator = r.conditionOperator := by
    simp [Row.conditionOperator, Row.operator?, hop]
  have hrnorm := @Row.normalize?_metric r ctx hr hrkind
  have hsnorm := @Row.normalize?_metric s ctx hs hskind
  rw [hoperator, ← hval] at hsnorm
  rw [List.filterMap_append, List.filterMap_append, List.filterMap_cons, List.filterMap_cons, hrnorm, hsnorm]
  rw [← RowOperand.verdict?_eq_none_iff]
  cases (ctx.operand r.conditionOperator r.val).verdict? with
  | none => simp
  | some verdict =>
    simp only [Option.map_some, reduceCtorEq, false_or]
    rw [joinConditions_replace_iff (r.metricCondition_wellFormed _ _ _) (s.metricCondition_wellFormed _ _ _)
      (fun _ => Row.wellFormed_of_mem_filterMap) fun _ => Row.wellFormed_of_mem_filterMap]
    exact Row.metricCondition_eq_iff hkey hpre

theorem condition_setRows_iff {c : Clause} (hc : c = .filter ∨ c = .having) (hr : r.hasKey = true)
    (hs : s.hasKey = true) (hrkind : r.kind = .metric) (hskind : s.kind = .metric) (hkey : r.realKey = s.realKey)
    (hpre : r.preFunc = s.preFunc) (hop : r.op = s.op) (hval : r.val = s.val) :
    (f.setRows c (before ++ r :: after)).condition ctx = (f.setRows c (before ++ s :: after)).condition ctx ↔
      ctx.operand r.conditionOperator r.val = .any ∨ r.ComparesAs s := by
  rcases hc with rfl | rfl
  · -- the bounds of time and the having clause come after the rows
    have hrows : ∀ r, (f.setRows .filter (before ++ r :: after)).conditionRows =
        before ++ r :: (after ++ timeBounds ++ f.having) := fun r => by
      simp [Form.conditionRows, Form.setRows]
    rw [Form.condition, Form.condition, hrows, hrows]
    exact conditions_eq_iff hr hs hrkind hskind hkey hpre hop hval
  · have hrows : ∀ r, (f.setRows .having (before ++ r :: after)).conditionRows =
        (f.filter ++ timeBounds ++ before) ++ r :: after := fun r => by
      simp [Form.conditionRows, Form.setRows]
    rw [Form.condition, Form.condition, hrows, hrows]
    exact conditions_eq_iff hr hs hrkind hskind hkey hpre hop hval

/-- **What a picked row stands for.** No query depends on the functions of references. So a metric row that was picked
from a row of the select clause is read as that row, in an order or in a condition, exactly if it applies the same
functions to the key itself; only a condition that a variable drops leaves no difference. -/
theorem Form.compile_following_iff (f : Form) (ctx : Context) (r : Row) (ref : SelectRef) (before after : List Row)
    (hmetric : r.kind = .metric) (href : r.fromSelect = some ref) (hkey : ref.key ≠ "") :
    (f.mapRows fun _ => Row.forgetFunctions).compile ctx = f.compile ctx ∧
    (Text.dropStart? ref.key bucketKeyStart = none →
      ((f.setRows .orderBy (before ++ r :: after)).compile ctx =
          (f.setRows .orderBy (before ++ r.following ref :: after)).compile ctx ↔
        r.AppliesAs (r.following ref))) ∧
    (∀ c, c = .filter ∨ c = .having →
      ((f.setRows c (before ++ r :: after)).compile ctx =
          (f.setRows c (before ++ r.following ref :: after)).compile ctx ↔
        ctx.operand r.conditionOperator r.val = .any ∨ r.ComparesAs (r.following ref))) := by
  have hreal : r.realKey = ref.key := Row.realKey_of_fromSelect href hkey
  have hr : r.hasKey = true := Row.hasKey_of_fromSelect href hkey
  have hs : (r.following ref).hasKey = true := Row.hasKey_following hkey
  refine ⟨Form.compile_mapRows (fun _ => Row.compilesAs_forgetFunctions) f ctx, fun hbucket => ?_, fun c hc => ?_⟩
  · have hordering : r.ordering = (r.following ref).ordering ↔ r.AppliesAs (r.following ref) := by
      rw [Row.ordering, Row.ordering, Row.realKey_following, hreal, hbucket]
      simp only [OrderEntry.mk.injEq, Row.composeAs_eq_iff, hreal, Row.realKey_following, true_and]
      exact and_iff_left rfl
    rw [compile_setRows_orderBy_iff, orderings_eq_iff hr hs, hordering]
  · rw [compile_setRows_condition_iff hc, condition_setRows_iff hc hr hs hmetric hmetric hreal rfl rfl rfl]

/-- A row without functions of its own that was picked from a sum is not the sum. -/
theorem Form.compile_following_not :
    let ref : SelectRef := ⟨"byte", "Sum", .empty, []⟩
    let r : Row := { kind := .metric, key := "byte", fromSelect := some ref }
    let f : Form := Form.new .trafficQuery
    let ctx : Context := { declared := [], bindings := [] }
    (f.setRows .orderBy [r]).compile ctx ≠ (f.setRows .orderBy [r.following ref]).compile ctx ∧
      (f.setRows .having [r]).compile ctx ≠ (f.setRows .having [r.following ref]).compile ctx := by
  intro ref r f ctx
  obtain ⟨-, horder, hcondition⟩ := Form.compile_following_iff f ctx r ref [] [] rfl rfl (by decide)
  refine ⟨fun h => ?_, fun h => ?_⟩
  · exact absurd ((horder (by decide)).mp h) (by decide)
  · exact absurd ((hcondition .having (.inr rfl)).mp h) (by decide)

end Picked

end PanelQuery
