import PanelQuery.Condition.Join
import PanelQuery.Proofs.IdColumn

/-!
# What conditions compare

A condition compares one column or the two of its sides, each with one value or several. `LIKE` and `NOT LIKE` match the
patterns of a list one at a time, and every other operator takes its value as it is (`Comparison.valuesApart`). The
column of a side has the ending of the side, and `_id` before it where identifiers are compared
(`Comparison.sideColumn`). Joining splits conditions into just these comparisons, on the column of a plain condition
(`splitLike_eq`) and on both columns of a two-sided one (`toCondition_expandSides`).
-/

namespace PanelQuery

theorem Operator.isLike_iff {op : Operator} : op.isLike = true ↔ op = .like ∨ op = .notLike := by
  cases op <;> simp [isLike]

theorem Operator.matchesIds_iff {op : Operator} : op.matchesIds = true ↔ op ∈ [.equal, .notEqual, .isIn, .notIn] := by
  cases op <;> simp [matchesIds]

namespace Comparison

/-- The values that a condition compares with one at a time: each pattern of a list, or the value as it is. -/
def valuesApart (c : Comparison) : List CondValue :=
  match c.val with
  | .many values => if c.op = .like ∨ c.op = .notLike then values.map .one else [.many values]
  | .one value => [.one value]

def onColumn (c : Comparison) (column : String) : Comparison := { c with key := column }

/-- What a condition compares on a column: one comparison for each of its values. -/
def leavesOn (c : Comparison) (column : String) : List Comparison :=
  c.valuesApart.map fun val => { c.onColumn column with val }

/-- The column of a condition on a side. Equality and membership compare identifiers, which addresses have not. -/
def sideColumn (c : Comparison) (ending : String) : String :=
  if c.op ∈ [.equal, .notEqual, .isIn, .notIn] ∧ Text.contains c.key "ip" = false then c.key ++ "_id" ++ ending
  else c.key ++ ending

/-- What a two-sided condition compares: its values on the column of the client, and on that of the server. -/
def sidedLeaves (c : Comparison) : List Comparison := c.leavesOn (c.sideColumn "_0") ++ c.leavesOn (c.sideColumn "_1")

/-- A two-sided condition as a group: both sides have to satisfy it where it negates, else one. -/
def sidedGroup (c : Comparison) : Condition := .group (if c.op.isNegated then .and else .or) (c.sidedLeaves.map .leaf)

/-- Whether a comparison matches patterns and has none. -/
def HasNoPattern (c : Comparison) : Prop := c.op.isLike = true ∧ c.val = .many []

/-- Whether one comparison is another, or that with one of its values. -/
def IsShareOf (l c : Comparison) : Prop :=
  l = c ∨ ∃ values, c.val = .many values ∧ ∃ value ∈ values, l = { c with val := .one value }

variable {c l : Comparison} {column ending : String}

/-- A share compares by the operator of the whole. -/
theorem IsShareOf.op_eq (h : l.IsShareOf c) : l.op = c.op := by
  rcases h with rfl | ⟨_, _, _, _, rfl⟩
  · rfl
  · rfl

/-! ## Values -/

/-- An operator that matches no patterns takes its value as it is. -/
theorem valuesApart_of_not_isLike (h : c.op.isLike = false) : c.valuesApart = [c.val] := by
  have hnot : ¬(c.op = .like ∨ c.op = .notLike) := fun hlike => by simp [Operator.isLike_iff.mpr hlike] at h
  unfold valuesApart
  cases c.val with
  | one value => rfl
  | many values => exact if_neg hnot

/-- An operator that matches patterns takes those of a list one at a time. -/
theorem valuesApart_of_isLike {values : List Scalar} (h : c.op.isLike = true) (hval : c.val = .many values) :
    c.valuesApart = values.map .one := by
  unfold valuesApart
  rw [hval]
  exact if_pos (Operator.isLike_iff.mp h)

/-- Nothing is compared exactly by a condition that matches patterns and has none. -/
theorem leavesOn_eq_nil_iff : c.leavesOn column = [] ↔ c.HasNoPattern := by
  rw [leavesOn, List.map_eq_nil_iff, HasNoPattern, Operator.isLike_iff, valuesApart]
  cases hval : c.val with
  | one value => simp
  | many values => by_cases hlike : c.op = .like ∨ c.op = .notLike <;> simp [hlike]

section Leaves

variable (hl : l ∈ c.leavesOn column)
include hl

theorem key_of_mem_leavesOn : l.key = column := by
  obtain ⟨val, -, rfl⟩ := List.mem_map.mp hl
  rfl

theorem op_of_mem_leavesOn : l.op = c.op := by
  obtain ⟨val, -, rfl⟩ := List.mem_map.mp hl
  rfl

theorem whereOnly_of_mem_leavesOn : l.whereOnly = c.whereOnly := by
  obtain ⟨val, -, rfl⟩ := List.mem_map.mp hl
  rfl

/-- With an operator that matches no patterns, a condition is all that it compares. -/
theorem eq_of_mem_leavesOn (hlike : l.op.isLike = false) : l = c.onColumn column := by
  have hop := op_of_mem_leavesOn hl
  rw [leavesOn, valuesApart_of_not_isLike (hop ▸ hlike), List.map_singleton, List.mem_singleton] at hl
  exact hl

/-- What a condition compares is a share of it, and never without a pattern. -/
theorem share_of_mem_leavesOn : l.IsShareOf (c.onColumn column) ∧ ¬l.HasNoPattern := by
  cases hlike : l.op.isLike with
  | false =>
    have hl := eq_of_mem_leavesOn hl hlike
    exact ⟨.inl hl, fun h => by simp [h.1] at hlike⟩
  | true =>
    have hop := op_of_mem_leavesOn hl
    obtain ⟨val, hval, rfl⟩ := List.mem_map.mp hl
    cases hcval : c.val with
    | one value =>
      rw [valuesApart, hcval, List.mem_singleton] at hval
      exact ⟨.inl (by rw [hval, ← hcval]; rfl), fun h => by cases hval.symm.trans h.2⟩
    | many values =>
      rw [valuesApart_of_isLike (hop ▸ hlike) hcval] at hval
      obtain ⟨value, hvalue, rfl⟩ := List.mem_map.mp hval
      exact ⟨.inr ⟨values, hcval, value, hvalue, rfl⟩, fun h => by cases h.2⟩

end Leaves

/-- A condition that matches no patterns is among what it compares on its own column. -/
theorem mem_leavesOn_self (hlike : c.op.isLike = false) : c ∈ c.leavesOn c.key := by
  rw [leavesOn, valuesApart_of_not_isLike hlike]
  exact List.mem_singleton.mpr rfl

/-- The comparisons of a condition are those that joining splits it into. -/
theorem splitLike_eq : c.splitLike = c.leavesOn c.key := by
  obtain ⟨_, _, key, _, op, val, _, _, _, _⟩ := c
  cases hlike : op.isLike with
  | false => simp [splitLike, leavesOn, valuesApart_of_not_isLike, hlike, onColumn]
  | true =>
    cases val with
    | one value => simp [splitLike, leavesOn, valuesApart, onColumn]
    | many values => simp [splitLike, leavesOn, valuesApart, Operator.isLike_iff.mp hlike, hlike, onColumn]

/-! ## Sides -/

/-- What a two-sided condition compares is what it compares on one of the sides. -/
theorem mem_sidedLeaves :
    l ∈ c.sidedLeaves ↔ ∃ ending ∈ sideEndings, l ∈ c.leavesOn (c.sideColumn ending) := by
  simp [sidedLeaves, sideEndings]

theorem op_of_mem_sidedLeaves (hl : l ∈ c.sidedLeaves) : l.op = c.op := by
  obtain ⟨ending, -, hl⟩ := mem_sidedLeaves.mp hl
  exact op_of_mem_leavesOn hl

theorem whereOnly_of_mem_sidedLeaves (hl : l ∈ c.sidedLeaves) : l.whereOnly = c.whereOnly := by
  obtain ⟨ending, -, hl⟩ := mem_sidedLeaves.mp hl
  exact whereOnly_of_mem_leavesOn hl

/-- The column of a side is the one that joining rewrites the key to. -/
theorem key_onSide (hending : ending ∈ sideEndings) : (c.onSide ending).key = c.sideColumn ending := by
  have hip : Text.contains (c.key ++ ending) "ip" = Text.contains c.key "ip" := by
    rcases mem_sideEndings.mp hending with rfl | rfl
    · exact contains_ip_append (v := "0") (by decide)
    · exact contains_ip_append (v := "1") (by decide)
  unfold onSide sideColumn
  dsimp only
  simp only [← Operator.matchesIds_iff, ← hip]
  cases c.op.matchesIds with
  | false => simp
  | true =>
    cases hcontains : Text.contains (c.key ++ ending) "ip" with
    | true => simp [resourceIdKey_of_contains hcontains]
    | false => simp [resourceIdKey_append hcontains hending]

/-- On a side, a condition is the same condition on the column of the side. -/
theorem onSide_eq (hending : ending ∈ sideEndings) : c.onSide ending = c.onColumn (c.sideColumn ending) := by
  rw [onColumn, ← key_onSide hending]
  rfl

/-- What joining splits a condition on a side into. -/
theorem splitLike_onSide_eq (hending : ending ∈ sideEndings) :
    (c.onSide ending).splitLike = c.leavesOn (c.sideColumn ending) := by
  rw [splitLike_eq, onSide_eq hending]
  rfl

/-- **A two-sided condition stands for its values on both columns.** -/
theorem toCondition_expandSides : c.expandSides.toCondition = c.sidedGroup := by
  have hsides : (sideEndings.flatMap fun ending => (c.onSide ending).splitLike) = c.sidedLeaves := by
    rw [sidedLeaves, ← splitLike_onSide_eq (by decide), ← splitLike_onSide_eq (by decide)]
    simp [sideEndings]
  rw [expandSides, TagPart.toCondition, hsides, sidedGroup]

example :
    let c : Comparison := { key := "pod", op := .notLike, val := .many [.text "a*", .text "b*"], whereOnly := true }
    let on (column pattern : String) : Condition := .leaf { c with key := column, val := .one (.text pattern) }
    c.sidedGroup = .group .and [on "pod_0" "a*", on "pod_0" "b*", on "pod_1" "a*", on "pod_1" "b*"] :=
  rfl

end Comparison
end PanelQuery
