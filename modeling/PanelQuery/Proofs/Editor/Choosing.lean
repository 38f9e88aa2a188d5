import PanelQuery.Editor.Edit
import PanelQuery.Proofs.Editor.Settling

/-!
# What the editor offers can be chosen

Setting a row changes the options of a form: a new group-by key may start grouping, and what follows from the change
prunes other rows. The clause of the row goes on to offer what was set (`Form.allows_apply_setRow`), because only
group-by rows and selected metrics decide what is offered, and what follows from a change keeps those columns
(`Form.columns_apply_setRow`). So a row that is set to an option is not cleared by sanitizing (`Form.offered_accepted`).
-/

namespace PanelQuery
namespace Form

variable {f : Form} {t : TableOptions} {c : Clause} {index : Nat} {r : Row}

/-! ## What follows from a change -/

@[simp] theorem groupBy_pruneSelect : f.pruneSelect.groupBy = f.groupBy := by
  unfold pruneSelect
  split <;> rfl

@[simp] theorem interval_pruneSelect : f.pruneSelect.interval = f.interval := by
  unfold pruneSelect
  split <;> rfl

@[simp] theorem groupBy_pruneOrder : f.pruneOrder.groupBy = f.groupBy := by
  unfold pruneOrder
  split <;> rfl

@[simp] theorem interval_pruneOrder : f.pruneOrder.interval = f.interval := by
  unfold pruneOrder
  split <;> rfl

/-- Rows may lose their functions. -/
theorem columns_select_pruneOrder : f.pruneOrder.select.map Row.column = f.select.map Row.column := by
  unfold pruneOrder
  split
  · exact List.map_map.trans rfl
  · rfl

/-- What follows from a change leaves the group-by clause alone. -/
theorem groupBy_cascade : (f.cascade c).groupBy = f.groupBy := by
  cases c <;> simp [cascade]

/-- What follows from a change leaves the interval alone. -/
theorem interval_cascade : (f.cascade c).interval = f.interval := by
  cases c <;> simp [cascade]

/-- What follows from a change to a clause leaves the columns of that clause alone. -/
theorem columns_cascade : ((f.cascade c).rows c).map Row.column = (f.rows c).map Row.column := by
  cases c with
  | select => exact columns_select_pruneOrder
  | groupBy => simp [cascade, rows]
  | filter | having | orderBy => rfl

theorem rows_setRows {rows : List Row} : (f.setRows c rows).rows c = rows := by
  cases c <;> rfl

theorem setRows_self : f.setRows c (f.rows c) = f := by
  cases c <;> rfl

/-- Setting a row changes the columns of its clause at that index only. -/
theorem columns_apply_setRow :
    ((f.apply (.setRow c index r)).rows c).map Row.column = ((f.rows c).set index r).map Row.column := by
  rw [apply, columns_cascade, rows_setRows]

theorem interval_apply_setRow : (f.apply (.setRow c index r)).interval = f.interval := by
  rw [apply, interval_cascade]
  cases c <;> rfl

/-- Setting a row of another clause leaves the group-by clause alone. -/
theorem groupBy_apply_setRow (hc : c ≠ .groupBy) : (f.apply (.setRow c index r)).groupBy = f.groupBy := by
  rw [apply, groupBy_cascade]
  cases c with
  | groupBy => exact absurd rfl hc
  | _ => rfl

/-! ## What is offered afterwards -/

theorem isGrouped_apply_setRow (hc : c ≠ .groupBy) : (f.apply (.setRow c index r)).isGrouped = f.isGrouped := by
  unfold isGrouped
  rw [groupBy_apply_setRow hc, interval_apply_setRow]

theorem groupByKeys_apply_setRow (hc : c ≠ .groupBy) :
    (f.apply (.setRow c index r)).groupByKeys = f.groupByKeys := by
  unfold groupByKeys
  rw [groupBy_apply_setRow hc]

/-- A group-by row with a key groups. -/
theorem isGrouped_apply_setRow_groupBy (hindex : index < f.groupBy.length) (hkey : r.hasKey = true) :
    (f.apply (.setRow .groupBy index r)).isGrouped = true := by
  unfold isGrouped
  rw [apply, groupBy_cascade]
  have hset : r ∈ (f.groupBy.set index r) := List.mem_set hindex r
  simp only [Bool.or_eq_true, List.any_eq_true]
  exact .inr ⟨r, hset, hkey⟩

/-- A clause goes on to offer a column when a row is set to it. -/
theorem allows_apply_setRow (hindex : index < (f.rows c).length) (hkey : r.hasKey = true)
    (h : (clauseOptions t f c).allows r = true) :
    (clauseOptions t (f.apply (.setRow c index r)) c).allows r = true := by
  cases hkind : r.kind with
  | tag =>
    -- only the tags that are selected depend on the form
    rw [allows_tag_iff hkind] at h ⊢
    refine ⟨h.1, ?_⟩
    rintro rfl hgrouped
    rw [isGrouped_apply_setRow (by decide)] at hgrouped
    rw [groupByKeys_apply_setRow (by decide)]
    exact h.2 rfl hgrouped
  | metric =>
    rw [allows_metric_iff hkind] at h ⊢
    by_cases hc : c = .groupBy
    · -- grouping may start, which only adds metrics
      subst hc
      obtain ⟨metric, hmetric, hvalue, -⟩ := h.1
      rw [isGrouped_apply_setRow_groupBy hindex hkey]
      exact ⟨⟨metric, hmetric, hvalue, .inl rfl⟩, nofun⟩
    · rw [isGrouped_apply_setRow hc]
      refine ⟨h.1, ?_⟩
      rintro rfl hgrouped
      exact h.2 rfl hgrouped

/-- **What the editor offers it accepts.** A row that is set to an option of its clause still refers to it after
everything that follows from the change and a pass of sanitizing, although that pass checks it against the options of
the form as it has become. A new group-by key may start grouping, but that takes no option away from the group-by
clause, and no other choice changes what its own clause offers. -/
theorem offered_accepted (f : Form) (t : TableOptions) (c : Clause) (index : Nat) (r : Row) (o : FieldOption)
    (hindex : index < (f.rows c).length) (hoffered : o ∈ (clauseOptions t f c).ofKind r.kind) (hkey : r.key = o.value) :
    ∃ s, (((f.apply (.setRow c index r)).sanitize t).rows c)[index]? = some s ∧
      s.key = o.value ∧ s.column = r.column := by
  have hset : (((f.apply (.setRow c index r)).rows c).map Row.column)[index]? = some r.column := by
    rw [columns_apply_setRow, List.getElem?_map, List.getElem?_set_self hindex, Option.map_some]
  rw [List.getElem?_map, Option.map_eq_some_iff] at hset
  obtain ⟨row, hrow, hcolumn⟩ := hset
  have hkept : row.keepOffered (clauseOptions t (f.apply (.setRow c index r)) c) = row := by
    cases hexempt : r.isExempt with
    | true => exact Row.keepOffered_of_exempt ((Row.isExempt_eq_of_column_eq hcolumn).trans hexempt)
    | false =>
      refine Row.keepOffered_of_allows ((Row.allows_eq_of_column_eq hcolumn).trans ?_)
      refine allows_apply_setRow hindex (Row.hasKey_of_key_ne (Row.key_ne_of_isExempt_eq_false hexempt)) ?_
      exact FieldOptions.allows_iff.mpr ⟨o, hoffered, hkey.symm⟩
  refine ⟨row.fit t c, ?_, ?_, hcolumn⟩
  · rw [rows_sanitize, List.getElem?_map, hrow, Option.map_some, hkept]
  · exact (Row.key_eq_of_column_eq hcolumn).trans hkey

/-- Choosing the first group-by key starts grouping, which takes the selected tag away but not the key. -/
theorem offered_accepted_groupBy :
    let tag (name : String) : FieldOption := { label := name, value := name, kind := .tag "resource", operators := [] }
    let t : TableOptions := ⟨[tag "pod", tag "region"], [], [], []⟩
    let f : Form := { Form.new .trafficQuery with select := [Row.tag "region"], groupBy := [.blank .tag] }
    let g := (f.apply (.setRow .groupBy 0 (Row.tag "pod"))).sanitize t
    f.isGrouped = false ∧ g.isGrouped = true ∧ g.select = [.blank .metric] ∧
      ∃ s, (g.rows .groupBy)[0]? = some s ∧ s.key = "pod" ∧ s.column = (Row.tag "pod").column := by
  intro tag t f g
  refine ⟨by decide, by decide, by decide, ?_⟩
  exact offered_accepted f t .groupBy 0 (Row.tag "pod") (tag "pod") (by decide) (by decide) rfl

end Form
end PanelQuery
