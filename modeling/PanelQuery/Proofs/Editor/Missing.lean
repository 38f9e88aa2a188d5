import PanelQuery.Proofs.Editor.Functions

/-!
# Edits of rows that are not there

An edit of a row that is not there changes no rows. The removal of such a row ends there, but when one is set, what
follows from an edit of its clause follows all the same. So the form stays as it is exactly if nothing is left to follow
(`Form.IsSteady`): while grouping no row to prune, otherwise no function to clear (`Form.apply_missing_iff`).
-/

namespace PanelQuery
namespace Form

variable {f : Form} {c : Clause}

/-- Whether nothing is left to follow from an edit of a clause. -/
structure IsSteady (f : Form) (c : Clause) : Prop where
  tags : c = .groupBy → f.isGrouped = true → f.select ≠ [] ∧ ∀ r ∈ f.select, ¬f.IsUngrouped r
  orders : c = .groupBy ∨ c = .select → f.isGrouped = true →
    f.orderBy ≠ [] ∧ ∀ r ∈ f.orderBy, r.hasKey = true → r.key ∈ f.selectedMetricKeys
  functions : c = .groupBy ∨ c = .select → f.isGrouped = false →
    ∀ d ∈ Clause.withFunctions, ∀ r ∈ f.rows d, r.IsPlain

/-! ## Rows that stay -/

/-- Rows are all kept by a test that a blank row passes exactly if there are some and all pass. -/
theorem refilled_filter_eq_self_iff {blank : Row} {p : Row → Bool} {rows : List Row} (hblank : p blank = true) :
    refilled blank (rows.filter p) = rows ↔ rows ≠ [] ∧ ∀ r ∈ rows, p r = true := by
  constructor
  · intro hsame
    have hne : rows ≠ [] := hsame ▸ refilled_ne_nil
    exact ⟨hne, fun r hr => (mem_refilled_filter_iff hr hblank).mp (hsame.symm ▸ hr)⟩
  · rintro ⟨hne, hall⟩
    rw [List.filter_eq_self.mpr hall, refilled, if_neg (by simpa using hne)]

theorem map_clearFunc_eq_self_iff {rows : List Row} : rows.map Row.clearFunc = rows ↔ ∀ r ∈ rows, r.IsPlain := by
  rw [← map_clearFunc_sublist_iff]
  exact ⟨fun hsame => hsame.symm ▸ .refl _, fun hsub => hsub.eq_of_length (List.length_map _)⟩

/-! ## Cascades without effect -/

/-- What follows from an edit changes at most the rows of three clauses. -/
theorem cascade_eq_self_iff_rows :
    f.cascade c = f ↔ ∀ d ∈ Clause.withFunctions, (f.cascade c).rows d = f.rows d := by
  have hpruneSelect : f.pruneSelect = { f with select := f.pruneSelect.select } := by
    unfold pruneSelect
    split <;> rfl
  have hpruneOrder (g : Form) : g.pruneOrder =
      { g with select := g.pruneOrder.select, having := g.pruneOrder.having, orderBy := g.pruneOrder.orderBy } := by
    unfold pruneOrder
    split <;> rfl
  have hcascade : f.cascade c =
      { f with select := (f.cascade c).select, having := (f.cascade c).having, orderBy := (f.cascade c).orderBy } := by
    cases c with
    | groupBy => rw [cascade, hpruneOrder, hpruneSelect]
    | select => exact hpruneOrder f
    | filter | having | orderBy => rfl
  constructor
  · exact fun hsame d _ => congrArg (fun g : Form => g.rows d) hsame
  · intro hrows
    rw [hcascade]
    have hselect : (f.cascade c).select = f.select := hrows .select (by decide)
    have hhaving : (f.cascade c).having = f.having := hrows .having (by decide)
    have horder : (f.cascade c).orderBy = f.orderBy := hrows .orderBy (by decide)
    rw [hselect, hhaving, horder]

/-- While grouping, what follows from a change leaves the having clause alone. -/
theorem having_cascade (h : f.isGrouped = true) : (f.cascade c).having = f.having := by
  have hselect : f.pruneSelect.having = f.having := by
    unfold pruneSelect
    split <;> rfl
  have horder (g : Form) (hg : g.isGrouped = true) : g.pruneOrder.having = g.having := by
    unfold pruneOrder
    rw [if_neg (by simp [hg])]
  cases c with
  | groupBy => rw [cascade, horder _ (isGrouped_pruneSelect.trans h), hselect]
  | select => exact horder f h
  | filter | having | orderBy => rfl

/-- Of the selected rows, an edit of the group-by clause takes away the tags that are not grouped by. -/
theorem select_cascade_eq_self_iff (hc : c = .groupBy ∨ c = .select) (h : f.isGrouped = true) :
    (f.cascade c).select = f.select ↔ (c = .groupBy → f.select ≠ [] ∧ ∀ r ∈ f.select, ¬f.IsUngrouped r) := by
  rcases hc with rfl | rfl
  · have htest (r : Row) : (r.isMetric || !r.hasKey || f.groupByKeys.contains r.key) = true ↔ ¬f.IsUngrouped r := by
      rw [IsUngrouped]
      simp only [Bool.or_eq_true, List.contains_iff_mem, mem_groupByKeys]
      cases hkind : r.kind <;> cases hkey : r.hasKey <;> simp [Row.isMetric, hkind]
    rw [cascade, select_pruneOrder (isGrouped_pruneSelect.trans h), select_pruneSelect h,
      refilled_filter_eq_self_iff rfl]
    simp only [htest, forall_const]
  · have hother : Clause.select ≠ .groupBy := by decide
    exact iff_of_true (select_pruneOrder h) fun hgroup => absurd hgroup hother

/-- While grouping, the order-by clause is left alone exactly if all its keyed rows are on selected metrics. -/
theorem orderBy_cascade_eq_self_iff (hc : c = .groupBy ∨ c = .select) (h : f.isGrouped = true)
    (hselect : (f.cascade c).select = f.select) :
    (f.cascade c).orderBy = f.orderBy ↔
      f.orderBy ≠ [] ∧ ∀ r ∈ f.orderBy, r.hasKey = true → r.key ∈ f.selectedMetricKeys := by
  have hkeys : (f.cascade c).selectedMetricKeys = f.selectedMetricKeys := by
    unfold selectedMetricKeys
    rw [hselect]
  have htest (r : Row) : (!r.hasKey || f.selectedMetricKeys.contains r.key) = true ↔
      (r.hasKey = true → r.key ∈ f.selectedMetricKeys) := by
    cases hkey : r.hasKey <;> simp
  rw [orderBy_cascade hc h, hkeys, refilled_filter_eq_self_iff rfl]
  simp only [htest]

/-- While grouping, nothing follows from a change exactly if no row has to be pruned. -/
theorem cascade_eq_self_iff_of_isGrouped (hc : c = .groupBy ∨ c = .select) (h : f.isGrouped = true) :
    f.cascade c = f ↔ (c = .groupBy → f.select ≠ [] ∧ ∀ r ∈ f.select, ¬f.IsUngrouped r) ∧
      f.orderBy ≠ [] ∧ ∀ r ∈ f.orderBy, r.hasKey = true → r.key ∈ f.selectedMetricKeys := by
  constructor
  · intro hsame
    have hselect : (f.cascade c).select = f.select := congrArg Form.select hsame
    have horder : (f.cascade c).orderBy = f.orderBy := congrArg Form.orderBy hsame
    exact ⟨(select_cascade_eq_self_iff hc h).mp hselect, (orderBy_cascade_eq_self_iff hc h hselect).mp horder⟩
  · rintro ⟨htags, horders⟩
    have hselect := (select_cascade_eq_self_iff hc h).mpr htags
    have horder := (orderBy_cascade_eq_self_iff hc h hselect).mpr horders
    refine cascade_eq_self_iff_rows.mpr fun d hd => ?_
    simp only [Clause.withFunctions, List.mem_cons, List.not_mem_nil, or_false] at hd
    rcases hd with rfl | rfl | rfl
    · exact hselect
    · exact having_cascade h
    · exact horder

/-- Without grouping, nothing follows from a change exactly if no row has functions. -/
theorem cascade_eq_self_iff_of_not_isGrouped (hc : c = .groupBy ∨ c = .select) (h : f.isGrouped = false) :
    f.cascade c = f ↔ ∀ d ∈ Clause.withFunctions, ∀ r ∈ f.rows d, r.IsPlain := by
  rw [cascade_eq_self_iff_rows]
  refine forall₂_congr fun d hd => ?_
  rw [rows_cascade_of_not_isGrouped hc hd h, map_clearFunc_eq_self_iff]

/-- A form is left as it is by what follows from an edit exactly if nothing is left to follow. -/
theorem cascade_eq_self_iff : f.cascade c = f ↔ f.IsSteady c := by
  by_cases hc : c = .groupBy ∨ c = .select
  · cases hgrouped : f.isGrouped with
    | true =>
      have hnot : f.isGrouped ≠ false := by simp [hgrouped]
      rw [cascade_eq_self_iff_of_isGrouped hc hgrouped]
      constructor
      · rintro ⟨htags, horders⟩
        exact ⟨fun hgroup _ => htags hgroup, fun _ _ => horders, fun _ h => absurd h hnot⟩
      · intro hsteady
        exact ⟨fun hgroup => hsteady.tags hgroup hgrouped, hsteady.orders hc hgrouped⟩
    | false =>
      have hnot : f.isGrouped ≠ true := by simp [hgrouped]
      rw [cascade_eq_self_iff_of_not_isGrouped hc hgrouped]
      constructor
      · exact fun hplain => ⟨fun _ h => absurd h hnot, fun _ h => absurd h hnot, fun _ _ => hplain⟩
      · exact fun hsteady => hsteady.functions hc hgrouped
  · have hsame : f.cascade c = f := by
      cases c with
      | groupBy => exact absurd (.inl rfl) hc
      | select => exact absurd (.inr rfl) hc
      | filter | having | orderBy => rfl
    exact iff_of_true hsame
      ⟨fun hgroup => absurd (.inl hgroup) hc, fun h => absurd h hc, fun h => absurd h hc⟩

/-- **Edits of rows that are not there.** Where a clause has no row at an index, the removal of that row leaves the form
as it is, and setting it does nothing but what follows from an edit of the clause. So it leaves the form as it is
exactly if nothing is left to follow. -/
theorem apply_missing_iff (f : Form) (c : Clause) (index : Nat) (row : Row) (hmissing : (f.rows c).length ≤ index) :
    f.apply (.removeRow c index) = f ∧ f.apply (.setRow c index row) = f.cascade c ∧
      (f.apply (.setRow c index row) = f ↔ f.IsSteady c) := by
  have hset : f.apply (.setRow c index row) = f.cascade c := by
    have hrows : f.setRows c (f.rows c) = f := by cases c <;> rfl
    rw [apply, List.set_eq_of_length_le hmissing, hrows]
  refine ⟨if_neg ?_, hset, ?_⟩
  · simp [Nat.not_lt.mpr hmissing]
  · rw [hset, cascade_eq_self_iff]

/-- Setting a row that is not there takes the functions of others away while nothing is grouped. -/
theorem apply_missing_not :
    let byte : Row := { kind := .metric, key := "byte", func := "Sum" }
    let f : Form := { new .trafficQuery with select := [byte] }
    (f.rows .select).length ≤ 1 ∧ f.apply (.setRow .select 1 byte) ≠ f := by
  intro byte f
  have hmissing : (f.rows .select).length ≤ 1 := by decide
  refine ⟨hmissing, fun hsame => ?_⟩
  obtain ⟨-, -, hsteady⟩ := apply_missing_iff f .select 1 byte hmissing
  have hplain : byte.IsPlain := (hsteady.mp hsame).functions (.inr rfl) rfl .select (by decide) byte List.mem_cons_self
  exact absurd hplain.1 (by decide)

end Form
end PanelQuery
