import PanelQuery.Proofs.Editor.Choosing

/-!
# No clause is ever emptied

A form with a row in every clause keeps one there, whatever is edited and whichever tables the form is brought in line
with in between (`Form.isOccupied_moves`). Three things could take the last row of a clause away: an edit of that
clause, which leaves one (`IsOccupied.apply`); what follows from an edit of another clause, which puts a blank row in
place of all that it prunes (`IsOccupied.cascade`); and sanitizing, which clears rows where they stand
(`IsOccupied.sanitize`).
-/

namespace PanelQuery
namespace Form

variable {f g : Form} {c : Clause} {rows : List Row}

/-- Every clause has a row. -/
def IsOccupied (f : Form) : Prop := ∀ c, f.rows c ≠ []

theorem IsOccupied.of_rows_eq (h : f.IsOccupied) (hrows : ∀ c, g.rows c = f.rows c) : g.IsOccupied :=
  fun c => hrows c ▸ h c

theorem rows_setRows_of_ne {d : Clause} (h : d ≠ c) : (f.setRows c rows).rows d = f.rows d := by
  revert h
  cases c <;> cases d <;> simp [Form.setRows, Form.rows]

theorem IsOccupied.setRows (h : f.IsOccupied) (hrows : rows ≠ []) : (f.setRows c rows).IsOccupied := by
  intro d
  by_cases hd : d = c
  · rw [hd, rows_setRows]
    exact hrows
  · rw [rows_setRows_of_ne hd]
    exact h d

/-! ## What follows from a change -/

/-- The rows that are kept, or a blank one where there are none. -/
def refilled (blank : Row) (kept : List Row) : List Row := if kept.isEmpty then [blank] else kept

/-- A clause that would be left empty gets a blank row. -/
theorem refilled_ne_nil {kept : List Row} {blank : Row} : refilled blank kept ≠ [] := by
  unfold refilled
  split
  · exact List.cons_ne_nil _ _
  · next hkept => exact fun hnil => hkept (List.isEmpty_iff.mpr hnil)

theorem IsOccupied.pruneSelect (h : f.IsOccupied) : f.pruneSelect.IsOccupied := by
  unfold Form.pruneSelect
  split
  · exact h
  · exact h.setRows (c := .select) refilled_ne_nil

theorem IsOccupied.pruneOrder (h : f.IsOccupied) : f.pruneOrder.IsOccupied := by
  unfold Form.pruneOrder
  split
  · have hcleared (d : Clause) : (f.rows d).map Row.clearFunc ≠ [] := mt List.map_eq_nil_iff.mp (h d)
    have hselect := h.setRows (c := .select) (hcleared .select)
    have hhaving := hselect.setRows (c := .having) (hcleared .having)
    exact hhaving.setRows (c := .orderBy) (hcleared .orderBy)
  · exact h.setRows (c := .orderBy) refilled_ne_nil

/-- What follows from a change leaves every clause with a row. -/
theorem IsOccupied.cascade (h : f.IsOccupied) : (f.cascade c).IsOccupied := by
  cases c with
  | groupBy => exact h.pruneSelect.pruneOrder
  | select => exact h.pruneOrder
  | filter | having | orderBy => exact h

/-! ## Resets -/

theorem IsOccupied.relationshipDefaults (h : f.IsOccupied) : f.relationshipDefaults.IsOccupied := by
  unfold Form.relationshipDefaults
  split
  · have hselect := h.setRows (c := .select) (List.cons_ne_nil (Row.blank .metric) [])
    have hgroup := hselect.setRows (c := .groupBy)
      (List.cons_ne_nil Clause.groupBy.blankRow [Clause.groupBy.blankRow])
    exact hgroup.of_rows_eq fun d => by cases d <;> rfl
  · exact h

/-- The form that is opened for an application has a row in every clause. -/
theorem isOccupied_opened (appType : AppType) : (opened appType).IsOccupied := by
  unfold opened
  refine IsOccupied.relationshipDefaults ?_
  split <;> exact fun d => by cases d <;> exact List.cons_ne_nil _ _

/-! ## Moves -/

/-- One edit. Of the edits of rows, only a removal makes a clause shorter, and it leaves one row. -/
theorem IsOccupied.apply (h : f.IsOccupied) (edit : Edit) : (f.apply edit).IsOccupied := by
  cases edit with
  | setAppType appType => exact isOccupied_opened appType
  | setDb db | setTable table =>
    exact IsOccupied.relationshipDefaults fun d => by cases d <;> exact List.cons_ne_nil _ _
  | setInterval interval =>
    have hset : ({ f with interval } : Form).IsOccupied := h.of_rows_eq fun d => by cases d <;> rfl
    exact hset.pruneSelect.pruneOrder
  | setSources | setSlimit | setLimit | setOffset | setFormat | setAlias | setShowMetrics =>
    exact h.of_rows_eq fun d => by cases d <;> rfl
  | setRow c index row =>
    have hset : (f.rows c).set index row ≠ [] := mt (List.set_eq_nil_iff index row).mp (h c)
    exact (h.setRows hset).cascade
  | addRow c index =>
    refine (h.setRows fun hnil => ?_).cascade
    have hlength := congrArg List.length hnil
    rw [List.length_insertIdx_of_le_length (Nat.min_le_right _ _)] at hlength
    exact absurd hlength (Nat.succ_ne_zero _)
  | removeRow c index =>
    unfold Form.apply
    dsimp only
    split
    · next hmany =>
      simp only [Bool.and_eq_true, decide_eq_true_eq] at hmany
      refine (h.setRows fun hnil => ?_).cascade
      have hlength := congrArg List.length hnil
      rw [List.length_eraseIdx, if_pos hmany.2, List.length_nil] at hlength
      omega
    · exact h

/-- Sanitizing takes no rows away. -/
theorem IsOccupied.sanitize (h : f.IsOccupied) (t : TableOptions) : (f.sanitize t).IsOccupied := by
  intro c
  rw [rows_sanitize]
  exact mt List.map_eq_nil_iff.mp (h c)

/-- A move of the editor: an edit, and the options that the form is brought in line with afterwards, if there are
any. -/
structure Move where
  edit : Edit
  options : Option TableOptions

def move (f : Form) (m : Move) : Form := m.options.elim (f.apply m.edit) (f.apply m.edit).sanitize

def moves (f : Form) (ms : List Move) : Form := ms.foldl move f

/-- One move. -/
theorem IsOccupied.move (h : f.IsOccupied) (m : Move) : (f.move m).IsOccupied := by
  unfold Form.move
  cases m.options with
  | none => exact h.apply m.edit
  | some t => exact (h.apply m.edit).sanitize t

/-- **No clause is ever emptied.** A form that has a row in every clause has one there after any moves. -/
theorem isOccupied_moves (f : Form) (ms : List Move) (h : ∀ c, f.rows c ≠ []) : ∀ c, (f.moves ms).rows c ≠ [] := by
  induction ms generalizing f with
  | nil => exact h
  | cons m later ih => exact ih (f.move m) (IsOccupied.move h m)

/-- The last group-by row is not removed; grouping by another key takes the only selected tag away and, as no metric is
selected, the only order; and a table without any tags clears what is left. -/
theorem isOccupied_moves_pruned :
    let f : Form := { Form.new .trafficQuery with
      select := [Row.tag "pod"], groupBy := [Row.tag "pod"], orderBy := [{ kind := .metric, key := "byte" }] }
    let ms : List Move := [⟨.removeRow .groupBy 0, none⟩, ⟨.setRow .groupBy 0 (Row.tag "region"), none⟩,
      ⟨.setInterval "60", some ⟨[], [], [], []⟩⟩]
    (∀ c, f.rows c ≠ []) ∧ (f.moves ms).select = [.blank .metric] ∧
      (f.moves ms).orderBy = [Clause.orderBy.blankRow] ∧ (f.moves ms).groupBy = [.blank .tag] ∧
      ∀ c, (f.moves ms).rows c ≠ [] := by
  intro f ms
  have hoccupied : ∀ c, f.rows c ≠ [] := by
    intro c
    cases c <;> exact List.cons_ne_nil _ _
  exact ⟨hoccupied, by decide, by decide, by decide, isOccupied_moves f ms hoccupied⟩

end Form
end PanelQuery
