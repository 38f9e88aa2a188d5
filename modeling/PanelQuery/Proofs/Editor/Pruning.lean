import PanelQuery.Proofs.Editor.Occupied
import PanelQuery.Validation

/-!
# What pruning takes away

An edit of rows changes those of one clause (`Form.edited`). From an edit of the interval, of the group-by clause or of
the select clause a cascade over other clauses follows (`Form.exists_cascade_of_reorders`), and nothing from any other
(`Form.rows_apply_of_not_reorders`). While grouping, the cascade takes the tags from the select clause that are not
grouped by, and nothing else (`Form.select_apply_of_regroups`). From the order-by clause it takes more than the metrics
that are not selected: it compares the keys of all rows, whatever they are, with those of selected metrics
(`Form.orderBy_apply_iff`).
-/

namespace PanelQuery

/-! ## What an edit changes -/

namespace Edit

/-- Whether an edit starts the form over. -/
def isReset : Edit → Bool
  | setAppType _ | setDb _ | setTable _ => true
  | _ => false

/-- The clause whose rows an edit changes, if it does. A row can be removed if it is there and not the last one. -/
def clause? (f : Form) : Edit → Option Clause
  | setRow c _ _ | addRow c _ => some c
  | removeRow c index => if 1 < (f.rows c).length && index < (f.rows c).length then some c else none
  | _ => none

/-- The rows of a clause once an edit of that clause has set, added or removed one. -/
def changeRows (c : Clause) (rows : List Row) : Edit → List Row
  | setRow _ index row => rows.set index row
  | addRow _ index =>
    let kind := ((rows[index]?).map Row.kind).getD c.defaultKind
    rows.insertIdx (min (index + 1) rows.length) { c.blankRow with kind }
  | removeRow _ index => rows.eraseIdx index
  | _ => rows

/-- Whether an edit may change what is grouped by. -/
def Regroups (e : Edit) (f : Form) : Prop := (∃ interval, e = .setInterval interval) ∨ e.clause? f = some .groupBy

/-- Whether an edit may change what can be ordered by. -/
def Reorders (e : Edit) (f : Form) : Prop := e.Regroups f ∨ e.clause? f = some .select

end Edit

namespace Form

/-- The rows of a clause once an edit has been made, before anything follows from it. -/
def edited (f : Form) (e : Edit) (c : Clause) : List Row :=
  if e.clause? f = some c then e.changeRows c (f.rows c) else f.rows c

section Steps

variable {f : Form} {e : Edit} {c d : Clause}

/-- An edit changes the rows of the clause that it is for. -/
theorem edited_of_clause? (h : e.clause? f = some c) : f.edited e c = e.changeRows c (f.rows c) := if_pos h

/-- An edit leaves the rows of the other clauses alone before anything follows from it. -/
theorem edited_of_clause?_ne (h : e.clause? f ≠ some c) : f.edited e c = f.rows c := if_neg h

/-- An edit of a clause changes its rows, and then something may follow. -/
theorem apply_of_clause? (h : e.clause? f = some c) :
    f.apply e = (f.setRows c (e.changeRows c (f.rows c))).cascade c := by
  cases e with
  | setRow d index row | addRow d index =>
    cases h
    rfl
  | removeRow d index =>
    rw [Edit.clause?] at h
    split at h
    · next hmany =>
      cases h
      exact if_pos hmany
    · cases h
  | _ => cases h

/-- An edit of no clause leaves all rows as they are, if nothing follows from it. -/
theorem rows_apply_of_clause?_eq_none (hreset : e.isReset = false) (hinterval : ¬∃ interval, e = .setInterval interval)
    (h : e.clause? f = none) : (f.apply e).rows c = f.rows c := by
  cases e with
  | setAppType | setDb | setTable => cases hreset
  | setInterval interval => exact absurd ⟨interval, rfl⟩ hinterval
  | setSources | setSlimit | setLimit | setOffset | setFormat | setAlias | setShowMetrics => cases c <;> rfl
  | setRow | addRow => cases h
  | removeRow d index =>
    rw [Edit.clause?] at h
    split at h
    · cases h
    · next hlast => rw [apply, if_neg hlast]

theorem rows_setRows_changeRows (h : e.clause? f = some c) :
    (f.setRows c (e.changeRows c (f.rows c))).rows d = f.edited e d := by
  by_cases hd : d = c
  · rw [hd, rows_setRows, edited, if_pos h]
  · rw [rows_setRows_of_ne hd, edited_of_clause?_ne]
    rw [h]
    exact fun hsame => hd (Option.some.inj hsame).symm

/-- An edit that may change what is grouped by ends in the cascade of the group-by clause. -/
theorem exists_cascade_of_regroups (h : e.Regroups f) :
    ∃ g : Form, (∀ c, g.rows c = f.edited e c) ∧ f.apply e = g.cascade .groupBy := by
  rcases h with ⟨interval, rfl⟩ | h
  · -- setting the interval changes no rows, but what follows is the same
    exact ⟨{ f with interval }, fun c => by cases c <;> rfl, rfl⟩
  · exact ⟨_, fun c => rows_setRows_changeRows h, apply_of_clause? h⟩

/-- An edit that reorders is a change of rows and what follows from it. -/
theorem exists_cascade_of_reorders (h : e.Reorders f) :
    ∃ c, (c = .groupBy ∨ c = .select) ∧ ∃ g : Form, (∀ d, g.rows d = f.edited e d) ∧ f.apply e = g.cascade c := by
  rcases h with h | h
  · exact ⟨.groupBy, .inl rfl, exists_cascade_of_regroups h⟩
  · exact ⟨.select, .inr rfl, _, fun d => rows_setRows_changeRows h, apply_of_clause? h⟩

/-- Any other edit that does not start the form over ends with the edit itself. -/
theorem rows_apply_of_not_reorders (hreset : e.isReset = false) (h : ¬e.Reorders f) :
    (f.apply e).rows c = f.edited e c := by
  cases hclause : e.clause? f with
  | none =>
    rw [rows_apply_of_clause?_eq_none hreset (fun hinterval => h (.inl (.inl hinterval))) hclause,
      edited_of_clause?_ne (by rw [hclause]; nofun)]
  | some d =>
    have hcascade : ∀ g : Form, g.cascade d = g := by
      cases d with
      | select => exact absurd (.inr hclause) h
      | groupBy => exact absurd (.inl (.inr hclause)) h
      | filter | having | orderBy => exact fun _ => rfl
    rw [apply_of_clause? hclause, hcascade, rows_setRows_changeRows hclause]

theorem edited_of_regroups (h : e.Regroups f) (hc : c ≠ .groupBy) : f.edited e c = f.rows c := by
  refine edited_of_clause?_ne fun hclause => ?_
  rcases h with ⟨interval, rfl⟩ | h
  · cases hclause
  · rw [h] at hclause
    exact hc (Option.some.inj hclause).symm

theorem edited_orderBy_of_reorders (h : e.Reorders f) : f.edited e .orderBy = f.orderBy := by
  rcases h with h | h
  · exact edited_of_regroups h (by decide)
  · exact edited_of_clause?_ne (by rw [h]; decide)

end Steps

/-! ## What a cascade takes away -/

section Cascades

variable {f : Form} {c : Clause}

/-- What follows from a change does not turn grouping on or off. -/
theorem isGrouped_cascade : (f.cascade c).isGrouped = f.isGrouped := by
  unfold isGrouped
  rw [groupBy_cascade, interval_cascade]

@[simp] theorem isGrouped_pruneSelect : f.pruneSelect.isGrouped = f.isGrouped := by
  unfold isGrouped
  rw [groupBy_pruneSelect, interval_pruneSelect]

@[simp] theorem orderBy_pruneSelect : f.pruneSelect.orderBy = f.orderBy := by
  unfold pruneSelect
  split <;> rfl

/-- While grouping, pruning keeps the metrics, the blank rows and the tags that are grouped by. -/
theorem select_pruneSelect (h : f.isGrouped = true) :
    f.pruneSelect.select = refilled (.blank .metric)
      (f.select.filter fun r => r.isMetric || !r.hasKey || f.groupByKeys.contains r.key) := by
  unfold pruneSelect
  rw [if_neg (by simp [h])]
  rfl

theorem select_pruneOrder (h : f.isGrouped = true) : f.pruneOrder.select = f.select := by
  unfold pruneOrder
  rw [if_neg (by simp [h])]

/-- While grouping, pruning keeps the blank order-by rows and those on the key of a selected metric. -/
theorem orderBy_pruneOrder (h : f.isGrouped = true) :
    f.pruneOrder.orderBy = refilled Clause.orderBy.blankRow
      (f.orderBy.filter fun r => !r.hasKey || f.selectedMetricKeys.contains r.key) := by
  unfold pruneOrder
  rw [if_neg (by simp [h])]
  rfl

/-- The keys of the metrics that are selected in the end decide what stays in the order. -/
theorem orderBy_cascade (hc : c = .groupBy ∨ c = .select) (h : f.isGrouped = true) :
    (f.cascade c).orderBy = refilled Clause.orderBy.blankRow
      (f.orderBy.filter fun r => !r.hasKey || (f.cascade c).selectedMetricKeys.contains r.key) := by
  have hprune : ∀ g : Form, g.isGrouped = true → g.pruneOrder.selectedMetricKeys = g.selectedMetricKeys := by
    intro g hg
    unfold selectedMetricKeys
    rw [select_pruneOrder hg]
  rcases hc with rfl | rfl
  · have hgrouped : f.pruneSelect.isGrouped = true := isGrouped_pruneSelect.trans h
    rw [cascade, hprune _ hgrouped, orderBy_pruneOrder hgrouped, orderBy_pruneSelect]
  · rw [cascade, hprune _ h, orderBy_pruneOrder h]

end Cascades

/-! ## Selected tags -/

/-- Whether a row selects a tag that a form does not group by. -/
def IsUngrouped (f : Form) (r : Row) : Prop :=
  r.kind = .tag ∧ r.hasKey = true ∧ ∀ group ∈ f.groupBy, group.hasKey = true → group.key ≠ r.key

instance (f : Form) : DecidablePred f.IsUngrouped := fun _ => inferInstanceAs (Decidable (_ ∧ _ ∧ _))

theorem mem_groupByKeys {f : Form} {key : String} :
    key ∈ f.groupByKeys ↔ ∃ group ∈ f.groupBy, group.hasKey = true ∧ group.key = key := by
  simp [groupByKeys, and_assoc]

/-- **Pruning of what is selected.** When an edit may have changed what is grouped by and the form groups afterwards,
the selected tags that it does not group by are gone. The other rows are there as they were, or a blank one if there
are none. -/
theorem select_apply_of_regroups (f : Form) (e : Edit) (he : e.Regroups f) (hgrouped : (f.apply e).isGrouped = true) :
    (f.apply e).select = refilled (.blank .metric) (f.select.filter fun r => ¬(f.apply e).IsUngrouped r) := by
  obtain ⟨g, hrows, happly⟩ := exists_cascade_of_regroups he
  rw [happly] at hgrouped ⊢
  have hg : g.isGrouped = true := isGrouped_cascade.symm.trans hgrouped
  have hselect : g.select = f.select := (hrows .select).trans (edited_of_regroups he (by decide))
  have hkept (r : Row) : (r.isMetric || !r.hasKey || g.groupByKeys.contains r.key) =
      decide ¬(g.cascade .groupBy).IsUngrouped r := by
    -- what is grouped by is not touched by what follows
    rw [Bool.eq_iff_iff, decide_eq_true_eq, IsUngrouped, groupBy_cascade]
    simp only [Bool.or_eq_true, List.contains_iff_mem, mem_groupByKeys]
    cases hkind : r.kind <;> cases hkey : r.hasKey <;> simp [Row.isMetric, hkind]
  rw [cascade, select_pruneOrder (isGrouped_pruneSelect.trans hg), select_pruneSelect hg, hselect]
  exact congrArg _ (List.filter_congr fun r _ => hkept r)

/-- A tag is no longer selected once its group-by row is removed; the blank row and the metric stay. -/
theorem select_apply_of_regroups_removed :
    let byte : Row := { kind := .metric, key := "byte", func := "Sum" }
    let f : Form := { new .trafficQuery with
      select := [Row.tag "pod", .blank .tag, Row.tag "region", byte], groupBy := [Row.tag "pod", Row.tag "region"] }
    let e : Edit := .removeRow .groupBy 1
    e.Regroups f ∧ (f.apply e).isGrouped = true ∧ (f.apply e).select = [Row.tag "pod", .blank .tag, byte] := by
  intro byte f e
  have he : e.Regroups f := .inr (by decide)
  have hgrouped : (f.apply e).isGrouped = true := by decide
  refine ⟨he, hgrouped, ?_⟩
  rw [select_apply_of_regroups f e he hgrouped]
  decide

/-! ## Orders -/

/-- Whether a form selects a metric by a row that refers to a key. -/
def SelectsMetric (f : Form) (key : String) : Prop := ∃ s ∈ f.select, s.kind = .metric ∧ s.realKey = key

instance (f : Form) : DecidablePred f.SelectsMetric :=
  fun key => inferInstanceAs (Decidable (∃ s ∈ f.select, s.kind = .metric ∧ s.realKey = key))

/-- Whether a row orders by a metric that a form does not select, and not by a time bucket. -/
def IsUnselected (f : Form) (r : Row) : Prop :=
  r.kind = .metric ∧ r.hasKey = true ∧ r.isBucket = false ∧ ¬f.SelectsMetric r.realKey

instance (f : Form) : DecidablePred f.IsUnselected := fun _ => inferInstanceAs (Decidable (_ ∧ _ ∧ _ ∧ _))

/-- Whether the rows of an order that have the key of a selected metric for their own are all but the unselected
metrics: tags and time buckets have such a key, and the other metrics have one exactly if what they refer to is
selected. -/
structure OrdersBySelected (f : Form) (rows : List Row) : Prop where
  others : ∀ r ∈ rows, r.hasKey = true → r.kind = .tag ∨ r.isBucket = true → r.key ∈ f.selectedMetricKeys
  metrics : ∀ r ∈ rows, r.hasKey = true → r.kind = .metric → r.isBucket = false →
    (r.key ∈ f.selectedMetricKeys ↔ f.SelectsMetric r.realKey)

/-- What a refilled clause holds satisfies what was asked of its rows. -/
theorem of_mem_refilled_filter {blank x : Row} {p : Row → Bool} {rows : List Row} (hblank : p blank = true)
    (hx : x ∈ refilled blank (rows.filter p)) : p x = true := by
  unfold refilled at hx
  split at hx
  · rw [List.mem_singleton.mp hx]
    exact hblank
  · exact (List.mem_filter.mp hx).2

/-- A row stays in a refilled clause exactly if it satisfies what was asked. -/
theorem mem_refilled_filter_iff {blank x : Row} {p : Row → Bool} {rows : List Row} (hx : x ∈ rows)
    (hblank : p blank = true) : x ∈ refilled blank (rows.filter p) ↔ p x = true := by
  unfold refilled
  split
  · next hempty =>
    have hnone := List.filter_eq_nil_iff.mp (List.isEmpty_iff.mp hempty) x hx
    rw [List.mem_singleton]
    constructor
    · rintro rfl
      exact hblank
    · exact fun hp => absurd hp hnone
  · exact List.mem_filter.trans (and_iff_right hx)

/-- What is kept tells what was asked of the rows, if a blank row has it. -/
theorem refilled_filter_eq_iff {blank : Row} {p q : Row → Bool} {rows : List Row} (hp : p blank = true)
    (hq : q blank = true) :
    refilled blank (rows.filter p) = refilled blank (rows.filter q) ↔ ∀ r ∈ rows, p r = q r := by
  constructor
  · intro hsame r hr
    rw [Bool.eq_iff_iff, ← mem_refilled_filter_iff hr hp, hsame, mem_refilled_filter_iff hr hq]
  · intro h
    rw [List.filter_congr h]

/-- Rows order by selected metrics exactly if pruning tells the same rows apart. -/
theorem ordersBySelected_iff {f : Form} {rows : List Row} :
    f.OrdersBySelected rows ↔
      ∀ r ∈ rows, (!r.hasKey || f.selectedMetricKeys.contains r.key) = decide ¬f.IsUnselected r := by
  have hrow (r : Row) : (!r.hasKey || f.selectedMetricKeys.contains r.key) = decide ¬f.IsUnselected r ↔
      (r.hasKey = true → r.kind = .tag ∨ r.isBucket = true → r.key ∈ f.selectedMetricKeys) ∧
      (r.hasKey = true → r.kind = .metric → r.isBucket = false →
        (r.key ∈ f.selectedMetricKeys ↔ f.SelectsMetric r.realKey)) := by
    rw [Bool.eq_iff_iff, decide_eq_true_eq, IsUnselected]
    simp only [Bool.or_eq_true, List.contains_iff_mem]
    cases r.kind <;> cases r.hasKey <;> cases r.isBucket <;> simp
  constructor
  · exact fun h r hr => (hrow r).mpr ⟨h.others r hr, h.metrics r hr⟩
  · exact fun h => ⟨fun r hr => ((hrow r).mp (h r hr)).1, fun r hr => ((hrow r).mp (h r hr)).2⟩

/-- **Pruning of an order.** When an edit may have changed what can be ordered by and the form groups afterwards, the
order has kept the rows without a key and those whose own key is that of a selected metric, or has a blank one if there
are none. The metrics that are not selected are all that it has lost exactly if its tags, its time buckets and its rows
that were picked from selected ones agree with that. -/
theorem orderBy_apply_iff (f : Form) (e : Edit) (he : e.Reorders f) (hgrouped : (f.apply e).isGrouped = true) :
    (f.apply e).orderBy = refilled Clause.orderBy.blankRow
      (f.orderBy.filter fun r => !r.hasKey || (f.apply e).selectedMetricKeys.contains r.key) ∧
    ((f.apply e).orderBy = refilled Clause.orderBy.blankRow
        (f.orderBy.filter fun r => ¬(f.apply e).IsUnselected r) ↔
      (f.apply e).OrdersBySelected f.orderBy) := by
  have hpruned : (f.apply e).orderBy = refilled Clause.orderBy.blankRow
      (f.orderBy.filter fun r => !r.hasKey || (f.apply e).selectedMetricKeys.contains r.key) := by
    obtain ⟨c, hc, g, hrows, happly⟩ := exists_cascade_of_reorders he
    rw [happly] at hgrouped ⊢
    have horder : g.orderBy = f.orderBy := (hrows .orderBy).trans (edited_orderBy_of_reorders he)
    rw [orderBy_cascade hc (isGrouped_cascade.symm.trans hgrouped), horder]
  refine ⟨hpruned, ?_⟩
  rw [hpruned, ordersBySelected_iff]
  -- a blank row passes both tests, so putting one in hides no difference
  exact refilled_filter_eq_iff rfl (by simp [IsUnselected, Row.hasKey, Row.realKey, Clause.blankRow])

/-- When grouping starts, the order loses a tag, a time bucket and a row that was picked from the selected metric. -/
theorem orderBy_apply_not :
    let byte : Row := { kind := .metric, key := "byte", func := "Sum" }
    let picked : Row := { kind := .metric, fromSelect := some ⟨"byte", "Sum", .empty, []⟩ }
    let f : Form := { new .trafficQuery with
      select := [byte], orderBy := [Row.tag "pod", { kind := .metric, key := "interval_60" }, picked, byte] }
    let e : Edit := .setInterval "60"
    e.Reorders f ∧ (f.apply e).isGrouped = true ∧ (f.apply e).orderBy = [byte] ∧
      (f.apply e).orderBy ≠ refilled Clause.orderBy.blankRow
        (f.orderBy.filter fun r => ¬(f.apply e).IsUnselected r) := by
  intro byte picked f e
  have he : e.Reorders f := .inl (.inl ⟨"60", rfl⟩)
  have hgrouped : (f.apply e).isGrouped = true := by decide
  obtain ⟨hpruned, hiff⟩ := orderBy_apply_iff f e he hgrouped
  refine ⟨he, hgrouped, hpruned.trans (by decide), fun hsame => ?_⟩
  have hpod : (Row.tag "pod").key ∈ (f.apply e).selectedMetricKeys :=
    (hiff.mp hsame).others _ List.mem_cons_self rfl (.inl rfl)
  exact absurd hpod (by decide)

end Form
end PanelQuery
