import PanelQuery.Proofs.Editor.Pruning

/-!
# Edits that are taken back

Nothing follows from an edit of the where, having or order-by rows, so such an edit changes the rows of its clause and
nothing else (`Form.apply_eq_setRows`). A row that is added there can be taken back by its removal, wherever it was put,
unless it is the only one (`Form.edits_undone_iff`).
-/

namespace PanelQuery

/-- The clauses whose edits nothing follows from. -/
def Clause.independent : List Clause := [filter, having, orderBy]

/-- The clause whose rows an edit is about. -/
def Edit.target? : Edit → Option Clause
  | setRow c _ _ | addRow c _ | removeRow c _ => some c
  | _ => none

namespace Form

variable {f : Form} {e : Edit} {c : Clause} {rows : List Row}

/-! ## Edits of one clause -/

/-- Nothing follows from a change of these clauses. -/
theorem cascade_of_independent (hc : c ∈ Clause.independent) : f.cascade c = f := by
  simp only [Clause.independent, List.mem_cons, List.not_mem_nil, or_false] at hc
  rcases hc with rfl | rfl | rfl <;> rfl

theorem setRows_setRows {others : List Row} : (f.setRows c others).setRows c rows = f.setRows c rows := by
  cases c <;> rfl

/-- An edit that is about a clause changes it, but for the removal of a row that is not there or the last one. -/
theorem clause?_or_apply_eq_self (h : e.target? = some c) :
    e.clause? f = some c ∨ e.clause? f = none ∧ f.apply e = f := by
  cases e with
  | setRow | addRow => exact .inl h
  | removeRow d index =>
    cases h
    by_cases hmany : (1 < (f.rows c).length && index < (f.rows c).length) = true
    · exact .inl (if_pos hmany)
    · exact .inr ⟨if_neg hmany, if_neg hmany⟩
  | _ => cases h

/-- An edit of an independent clause is the edit itself. -/
theorem apply_eq_setRows (hc : c ∈ Clause.independent) (h : e.target? = some c) :
    f.apply e = f.setRows c (f.edited e c) := by
  rcases clause?_or_apply_eq_self h with hclause | ⟨hclause, hsame⟩
  · rw [apply_of_clause? hclause, cascade_of_independent hc, edited_of_clause? hclause]
  · rw [hsame, edited_of_clause?_ne (by simp [hclause]), setRows_self]

/-! ## Additions that are taken back -/

/-- Where an edit of a clause puts a new row. -/
def insertionIndex (f : Form) (c : Clause) (index : Nat) : Nat := min (index + 1) (f.rows c).length

/-- Adding a row to such a clause inserts it behind the index and changes nothing else. -/
theorem apply_addRow (hc : c ∈ Clause.independent) (index : Nat) :
    ∃ row, f.apply (.addRow c index) = f.setRows c ((f.rows c).insertIdx (f.insertionIndex c index) row) := by
  rw [apply_eq_setRows hc rfl, edited_of_clause? rfl]
  exact ⟨_, rfl⟩

/-- Removing a row from such a clause changes nothing else, if another row is left. -/
theorem apply_removeRow (hc : c ∈ Clause.independent) {index : Nat} (hmany : 1 < (f.rows c).length)
    (hindex : index < (f.rows c).length) : f.apply (.removeRow c index) = f.setRows c ((f.rows c).eraseIdx index) := by
  have hclause : (Edit.removeRow c index).clause? f = some c := if_pos (by simp [hmany, hindex])
  rw [apply_eq_setRows hc rfl, edited_of_clause? hclause, Edit.changeRows]

/-- The last row of a clause stays. -/
theorem apply_removeRow_of_length_le {index : Nat} (h : (f.rows c).length ≤ 1) : f.apply (.removeRow c index) = f :=
  if_neg (by simp [Nat.not_lt.mpr h])

/-- **Edits of conditions and orders.** An edit of the where, having or order-by rows changes the rows of its clause as
the edit says and leaves the rest of the form alone. When a row is added there after some row, or at the end if there is
none that far, and the row in its place is removed, the form is what it was, exactly if the clause had a row: the last
row of a clause stays. -/
theorem edits_undone_iff (f : Form) (c : Clause) (hc : c ∈ Clause.independent) :
    (∀ e : Edit, e.target? = some c → f.apply e = f.setRows c (f.edited e c)) ∧
    ∀ index, (f.apply (.addRow c index)).apply (.removeRow c (f.insertionIndex c index)) = f ↔ f.rows c ≠ [] := by
  refine ⟨fun e h => apply_eq_setRows hc h, fun index => ?_⟩
  obtain ⟨row, hadd⟩ := f.apply_addRow hc index
  rw [hadd]
  have hplace : f.insertionIndex c index ≤ (f.rows c).length := Nat.min_le_right _ _
  have hlength : ((f.setRows c ((f.rows c).insertIdx (f.insertionIndex c index) row)).rows c).length =
      (f.rows c).length + 1 := by
    rw [rows_setRows, List.length_insertIdx_of_le_length hplace]
  constructor
  · rintro hsame hnil
    rw [apply_removeRow_of_length_le (by rw [hlength, hnil]; simp)] at hsame
    rw [hsame] at hlength
    omega
  · intro hrows
    have hmany : 0 < (f.rows c).length := List.length_pos_iff.mpr hrows
    rw [apply_removeRow hc (by omega) (by omega), rows_setRows, setRows_setRows, List.eraseIdx_insertIdx_self,
      setRows_self]

/-- A row that is added to an order far beyond its end comes after the only row, and is gone after its removal; but in
an order without rows it stays. -/
theorem edits_undone_beyond :
    let f : Form := { new .trafficQuery with orderBy := [Row.tag "pod"] }
    let g : Form := { new .trafficQuery with orderBy := [] }
    Clause.orderBy ∈ Clause.independent ∧
      (f.apply (.addRow .orderBy 7)).orderBy = [Row.tag "pod", Clause.orderBy.blankRow] ∧
      (f.apply (.addRow .orderBy 7)).apply (.removeRow .orderBy 1) = f ∧
      (g.apply (.addRow .orderBy 7)).apply (.removeRow .orderBy 0) ≠ g := by
  intro f g
  have hc : Clause.orderBy ∈ Clause.independent := by decide
  have hf := ((edits_undone_iff f .orderBy hc).2 7).mpr (by decide)
  have hg := mt ((edits_undone_iff g .orderBy hc).2 7).mp (by decide)
  exact ⟨hc, by decide, hf, hg⟩

end Form
end PanelQuery
