import PanelQuery.Proofs.Editor.Missing
import PanelQuery.Proofs.Editor.Resets

/-!
# Edits made twice

What follows from an edit leaves nothing to follow: the rows that a cascade keeps pass its test once more, the blank row
that it may put in their place passes it too, and cleared functions stay cleared (`Form.isSteady_cascade`). So setting
something twice is setting it once, although the second time the cascade starts from pruned rows
(`Form.apply_apply_of_isSet`). Adding or removing a row twice is not (`Form.apply_apply_iff`).
-/

namespace PanelQuery

/-- Whether an edit sets something, rather than adding or removing a row. -/
def Edit.isSet : Edit → Bool
  | addRow _ _ | removeRow _ _ => false
  | _ => true

namespace Form

variable {f : Form} {e : Edit} {c : Clause}

/-! ## Cascades -/

/-- A cascade leaves nothing to follow. -/
theorem isSteady_cascade : (f.cascade c).IsSteady c := by
  constructor
  · rintro rfl hgrouped
    have hf : f.isGrouped = true := isGrouped_cascade.symm.trans hgrouped
    have hselect := (select_pruneOrder (isGrouped_pruneSelect.trans hf)).trans (select_pruneSelect hf)
    rw [cascade, hselect]
    refine ⟨refilled_ne_nil, fun r hr hungrouped => ?_⟩
    obtain ⟨hkind, hkey, hnone⟩ := hungrouped
    have hkept := of_mem_refilled_filter rfl hr
    simp only [Bool.or_eq_true, List.contains_iff_mem, mem_groupByKeys] at hkept
    rcases hkept with (hmetric | hblank) | ⟨group, hgroup, hgroupKey, hsame⟩
    · simp [Row.isMetric, hkind] at hmetric
    · simp [hkey] at hblank
    · exact hnone group (by simpa using hgroup) hgroupKey hsame
  · intro hc hgrouped
    rw [orderBy_cascade hc (isGrouped_cascade.symm.trans hgrouped)]
    refine ⟨refilled_ne_nil, fun r hr hkey => ?_⟩
    have hkept := of_mem_refilled_filter rfl hr
    simpa [hkey] using hkept
  · intro hc hgrouped d hd r hr
    rw [rows_cascade_of_not_isGrouped hc hd (isGrouped_cascade.symm.trans hgrouped)] at hr
    obtain ⟨s, -, rfl⟩ := List.mem_map.mp hr
    exact s.isPlain_clearFunc

/-- What follows from an edit follows once. -/
theorem cascade_cascade : (f.cascade c).cascade c = f.cascade c := cascade_eq_self_iff.mpr isSteady_cascade

/-! ## Setting a row -/

/-- The form without any functions where a cascade clears them. -/
def clearFuncs (f : Form) : Form :=
  { f with
    select := f.select.map Row.clearFunc
    having := f.having.map Row.clearFunc
    orderBy := f.orderBy.map Row.clearFunc }

/-- Without grouping, a change of the select clause clears functions and nothing else. -/
theorem cascade_select_of_not_isGrouped (h : f.isGrouped = false) : f.cascade .select = f.clearFuncs := by
  rw [cascade, pruneOrder, if_pos (by simp [h])]
  rfl

/-- Rows lose their functions once. -/
theorem map_clearFunc_map_clearFunc (rows : List Row) :
    (rows.map Row.clearFunc).map Row.clearFunc = rows.map Row.clearFunc := by
  rw [List.map_map]
  rfl

/-- Clearing functions takes that of a row that is set with it. -/
theorem clearFuncs_setRows_clearFuncs {index : Nat} {r : Row} (hset : f.select.set index r = f.select) :
    (f.clearFuncs.setRows .select (f.clearFuncs.select.set index r)).clearFuncs = f.clearFuncs := by
  have hselect : (f.clearFuncs.select.set index r).map Row.clearFunc = f.select.map Row.clearFunc := by
    calc ((f.select.map Row.clearFunc).set index r).map Row.clearFunc
        = (f.select.map Row.clearFunc).set index r.clearFunc := by rw [List.map_set, map_clearFunc_map_clearFunc]
      _ = (f.select.set index r).map Row.clearFunc := List.map_set.symm
      _ = f.select.map Row.clearFunc := by rw [hset]
  have hhaving := map_clearFunc_map_clearFunc f.having
  have horder := map_clearFunc_map_clearFunc f.orderBy
  unfold clearFuncs at hselect ⊢
  simp only [setRows, hselect, hhaving, horder]

/-- A cascade that starts once more from where it ended, with the same row set again, comes to the same. -/
theorem cascade_setRows_cascade {index : Nat} {r : Row} (hset : (f.rows c).set index r = f.rows c) :
    ((f.cascade c).setRows c (((f.cascade c).rows c).set index r)).cascade c = f.cascade c := by
  by_cases hcleared : c = .select ∧ f.isGrouped = false
  · obtain ⟨rfl, hgrouped⟩ := hcleared
    rw [cascade_select_of_not_isGrouped hgrouped]
    refine (cascade_select_of_not_isGrouped ?_).trans (clearFuncs_setRows_clearFuncs hset)
    exact hgrouped
  · -- here the cascade leaves the rows of the clause alone
    have hrows : (f.cascade c).rows c = f.rows c := by
      cases c with
      | select => exact select_pruneOrder (by simpa using hcleared)
      | groupBy => exact groupBy_cascade
      | filter | having | orderBy => rfl
    rw [hrows, hset, ← hrows, setRows_self, cascade_cascade]

/-! ## Edits -/

theorem appType_relationshipDefaults : f.relationshipDefaults.appType = f.appType := by
  rw [relationshipDefaults_eq]

/-- Setting something twice is setting it once. -/
theorem apply_apply_of_isSet (h : e.isSet = true) : (f.apply e).apply e = f.apply e := by
  cases e with
  | addRow | removeRow => cases h
  | setAppType | setSources | setSlimit | setOffset | setFormat | setAlias | setShowMetrics => rfl
  | setDb db =>
    have happ : (f.apply (.setDb db)).appType = f.appType := appType_relationshipDefaults
    rw [apply_setDb (f := f.apply _), happ, apply_setDb]
  | setTable table =>
    have happ : (f.apply (.setTable table)).appType = f.appType := appType_relationshipDefaults
    have hdb : (f.apply (.setTable table)).db = f.db := by rw [apply_setTable]
    have hsources : (f.apply (.setTable table)).sources = f.sources := by rw [apply_setTable]
    rw [apply_setTable (f := f.apply _), happ, hdb, hsources, apply_setTable]
  | setLimit limit =>
    simp only [apply]
    split <;> rfl
  | setInterval interval =>
    have hinterval : (f.apply (.setInterval interval)).interval = interval := interval_cascade (c := .groupBy)
    calc (f.apply (.setInterval interval)).apply (.setInterval interval)
        = ({ f.apply (.setInterval interval) with interval := (f.apply (.setInterval interval)).interval } :
            Form).cascade .groupBy := by rw [hinterval]; rfl
      _ = f.apply (.setInterval interval) := cascade_cascade (c := .groupBy)
  | setRow c index r =>
    have hset : ((f.setRows c ((f.rows c).set index r)).rows c).set index r =
        (f.setRows c ((f.rows c).set index r)).rows c := by
      rw [rows_setRows, List.set_set]
    exact cascade_setRows_cascade hset

/-- An edit of the rows of a clause changes how many there are as it does before anything follows from it. -/
theorem length_rows_apply (h : e.clause? f = some c) :
    ((f.apply e).rows c).length = (e.changeRows c (f.rows c)).length := by
  have hcolumns := congrArg List.length (columns_cascade (f := f.setRows c (e.changeRows c (f.rows c))) (c := c))
  rw [rows_setRows, List.length_map, List.length_map] at hcolumns
  rw [apply_of_clause? h, hcolumns]

/-- A row that is added twice is there twice. -/
theorem length_rows_addRow {index : Nat} :
    ((f.apply (.addRow c index)).rows c).length = (f.rows c).length + 1 := by
  rw [length_rows_apply rfl, Edit.changeRows, List.length_insertIdx_of_le_length (Nat.min_le_right _ _)]

/-- Rows are removed one by one as long as there are more. -/
theorem length_rows_removeRow {index : Nat} (h : index + 1 < (f.rows c).length) :
    ((f.apply (.removeRow c index)).rows c).length + 1 = (f.rows c).length := by
  have hclause : (Edit.removeRow c index).clause? f = some c := if_pos (by simp; omega)
  rw [length_rows_apply hclause, Edit.changeRows, List.length_eraseIdx_of_lt (by omega)]
  omega

/-- **Which edits are idempotent.** An edit that is made twice comes to the same as the edit made once, for every form,
exactly if it sets something. -/
theorem apply_apply_iff (e : Edit) : (∀ f : Form, (f.apply e).apply e = f.apply e) ↔ e.isSet = true := by
  constructor
  · intro hsame
    cases e with
    | addRow c index =>
      have hlength := congrArg (fun f => (rows f c).length) (hsame (new .trafficQuery))
      simp only [length_rows_addRow] at hlength
      omega
    | removeRow c index =>
      let f := (new .trafficQuery).setRows c (List.replicate (index + 3) c.blankRow)
      have hrows : (f.rows c).length = index + 3 := by rw [rows_setRows, List.length_replicate]
      have honce : ((f.apply (.removeRow c index)).rows c).length + 1 = (f.rows c).length :=
        length_rows_removeRow (by omega)
      have htwice : (((f.apply (.removeRow c index)).apply (.removeRow c index)).rows c).length + 1 =
          ((f.apply (.removeRow c index)).rows c).length := length_rows_removeRow (by omega)
      rw [hsame f] at htwice
      omega
    | _ => rfl
  · exact fun hset f => apply_apply_of_isSet hset

end Form
end PanelQuery
