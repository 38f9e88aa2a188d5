import PanelQuery.Proofs.Condition.Layout

/-!
# Negation

`=`, `IN`, `LIKE` and `REGEXP` have a negation (`Operator.negation?`). It differs only in that it negates: it splits
patterns and picks columns as the operator itself does, so the negated condition compares the same columns with the
same values (`sidedLeaves_withOp`), and asks for all of these comparisons where the condition asks for one. By De Morgan
a two-sided condition holds negated exactly if it does not hold, alone or joined (`holds_expandSides_withOp`).
-/

namespace PanelQuery

/-! ## Operators -/

namespace Operator

/-- The operator that says the opposite, for those that select by value. -/
def negation? : Operator → Option Operator
  | equal => some notEqual
  | isIn => some notIn
  | like => some notLike
  | regexp => some notRegexp
  | _ => none

variable {op op' : Operator}

/-- An operator that has a negation is not one itself. -/
theorem isNegated_of_negation? (h : op.negation? = some op') : op.isNegated = false ∧ op'.isNegated = true := by
  cases op <;> cases h <;> exact ⟨rfl, rfl⟩

/-- Negation keeps whether patterns are matched. -/
theorem isLike_negation (h : op.negation? = some op') : op'.isLike = op.isLike := by
  cases op <;> cases h <;> rfl

/-- Negation keeps whether identifiers are compared. -/
theorem matchesIds_negation (h : op.negation? = some op') : op'.matchesIds = op.matchesIds := by
  cases op <;> cases h <;> rfl

end Operator

/-! ## Comparisons -/

namespace Comparison

def withOp (c : Comparison) (op : Operator) : Comparison := { c with op := op }

variable {c l : Comparison} {op : Operator}

@[simp] theorem withOp_op : (c.withOp op).op = op := rfl

@[simp] theorem withOp_key : (c.withOp op).key = c.key := rfl

@[simp] theorem withOp_val : (c.withOp op).val = c.val := rfl

@[simp] theorem withOp_whereOnly : (c.withOp op).whereOnly = c.whereOnly := rfl

/-- Operators that agree on identifiers compare the same columns. -/
theorem sideColumn_withOp (h : op.matchesIds = c.op.matchesIds) (ending : String) :
    (c.withOp op).sideColumn ending = c.sideColumn ending := by
  simp only [sideColumn, ← Operator.matchesIds_iff, withOp_op, withOp_key, h]

/-- Operators that agree on patterns compare with the same values. -/
theorem leavesOn_withOp (h : op.isLike = c.op.isLike) (column : String) :
    (c.withOp op).leavesOn column = (c.leavesOn column).map (·.withOp op) := by
  have hvalues : (c.withOp op).valuesApart = c.valuesApart := by
    simp only [valuesApart, ← Operator.isLike_iff, withOp_op, withOp_val, h]
  rw [leavesOn, leavesOn, hvalues, List.map_map]
  rfl

/-- By another operator the same columns are compared with the same values. -/
theorem sidedLeaves_withOp (hids : op.matchesIds = c.op.matchesIds) (hlike : op.isLike = c.op.isLike) :
    (c.withOp op).sidedLeaves = c.sidedLeaves.map (·.withOp op) := by
  rw [sidedLeaves, sidedLeaves, sideColumn_withOp hids, sideColumn_withOp hids, leavesOn_withOp hlike,
    leavesOn_withOp hlike, List.map_append]

end Comparison

/-! ## Truth -/

/-- Whether comparisons by one operator are true exactly if those by another, of the same column with the same value,
are false. -/
def Assignment.Opposes (t : Assignment) (op op' : Operator) : Prop :=
  ∀ l : Comparison, l.op = op → t.leaf (l.withOp op') = !t.leaf l

section Truth

variable {t : Assignment} {c : Comparison} {op : Operator}

/-- Under the negated operator a two-sided condition holds exactly if it does not under the other. -/
theorem holdsOnSides_withOp (hop : c.op.negation? = some op) (ht : t.Opposes c.op op) :
    t.HoldsOnSides (c.withOp op) ↔ ¬t.HoldsOnSides c := by
  obtain ⟨hpositive, hnegative⟩ := Operator.isNegated_of_negation? hop
  calc t.HoldsOnSides (c.withOp op)
    _ ↔ ∀ l ∈ (c.withOp op).sidedLeaves, t.leaf l = true := by
      rw [Assignment.HoldsOnSides, Comparison.withOp_op, if_pos hnegative]
    _ ↔ ∀ l ∈ c.sidedLeaves, t.leaf (l.withOp op) = true := by
      rw [Comparison.sidedLeaves_withOp (Operator.matchesIds_negation hop) (Operator.isLike_negation hop)]
      exact List.forall_mem_map
    _ ↔ ∀ l ∈ c.sidedLeaves, ¬t.leaf l = true := by
      refine forall₂_congr fun l hl => ?_
      rw [ht l (Comparison.op_of_mem_sidedLeaves hl), Bool.not_eq_true', Bool.not_eq_true]
    _ ↔ ¬∃ l ∈ c.sidedLeaves, t.leaf l = true := by
      simp only [not_exists, not_and]
    _ ↔ ¬t.HoldsOnSides c := by
      rw [Assignment.HoldsOnSides, if_neg (by simp [hpositive])]

/-- A two-sided condition that is joined alone asks for what it stands for. -/
theorem holds_joinConditions_sided (hsided : c.whereOnly = true) :
    (∀ n ∈ joinConditions [.tag c], n.holds t = true) ↔ t.HoldsOnSides c := by
  rw [holds_joinConditions]
  constructor
  · exact fun h => h.sides c List.mem_cons_self hsided
  · intro h
    refine ⟨fun m hm => ?_, fun c' hc' _ => ?_, fun l hl => ?_⟩
    · cases List.mem_singleton.mp hm
    · cases List.mem_singleton.mp hc'
      exact h
    · obtain ⟨c', hc', hplain, -⟩ := mem_plainLeaves.mp hl
      cases List.mem_singleton.mp hc'
      cases hplain.symm.trans hsided

/-- **Negation is complement on two sides.** Where the negated operator says the opposite of the operator, the expansion
of the negated condition is true exactly if that of the condition is false, and so are the joined conditions. -/
theorem holds_expandSides_withOp (hsided : c.whereOnly = true) (hop : c.op.negation? = some op)
    (ht : t.Opposes c.op op) :
    (c.withOp op).expandSides.toCondition.holds t = !c.expandSides.toCondition.holds t ∧
    ((∀ n ∈ joinConditions [.tag (c.withOp op)], n.holds t = true) ↔
      ¬∀ n ∈ joinConditions [.tag c], n.holds t = true) := by
  constructor
  · rw [Bool.eq_iff_iff, Bool.not_eq_true', ← Bool.not_eq_true, holds_expandSides, holds_expandSides]
    exact holdsOnSides_withOp hop ht
  · rw [holds_joinConditions_sided (Comparison.withOp_whereOnly.trans hsided), holds_joinConditions_sided hsided]
    exact holdsOnSides_withOp hop ht

/-- A flow of which only the client is matched, by the first of two patterns. -/
theorem holds_expandSides_notLike :
    let c : Comparison :=
      { key := "ip", op := .like, val := .many [.text "10.*", .text "172.*"], whereOnly := true }
    let matched : Comparison → Bool := fun l => l.key = "ip_0" ∧ l.val = .one (.text "10.*")
    let t : Assignment := ⟨fun l => if l.op = .like then matched l else !matched l, fun _ => false⟩
    c.whereOnly = true ∧ c.op.negation? = some .notLike ∧ t.Opposes .like .notLike ∧
      c.expandSides.toCondition.holds t = true ∧ (c.withOp .notLike).expandSides.toCondition.holds t = false := by
  intro c matched t
  have ht : t.Opposes .like .notLike := by
    intro l hl
    calc t.leaf (l.withOp .notLike)
      _ = !matched l := rfl
      _ = !t.leaf l := congrArg not (if_pos hl).symm
  have hholds : c.expandSides.toCondition.holds t = true := by decide
  exact ⟨rfl, rfl, ht, hholds, (holds_expandSides_withOp (c := c) rfl rfl ht).1.trans (congrArg not hholds)⟩

end Truth

end PanelQuery
