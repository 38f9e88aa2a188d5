import PanelQuery.Proofs.Validation
import PanelQuery.Relationship

/-!
# Both ends of a relationship

A relationship has columns at an end exactly if a group-by row of that side has a key
(`Relationship.columnsAt_ne_nil_iff`). Validation asks for rows on both sides, blank ones included, so the ends of a
valid form are there exactly if it is still valid without its blank group-by rows (`Form.relationship_ends_iff`).
-/

namespace PanelQuery

namespace Relationship

variable {groupBy : List Row} {returned : List String} {side : Side}

def columnsAt (r : Relationship) : Side → List String
  | .source => r.source
  | .target => r.target

theorem columnsAt_ne_nil_iff :
    (of groupBy returned).columnsAt side ≠ [] ↔ ∃ row ∈ groupBy, row.side = some side ∧ row.hasKey = true := by
  have hcolumns : (of groupBy returned).columnsAt side =
      ((groupBy.filter Row.hasKey).filter fun row => row.side == some side).map sideKey := by
    cases side <;> rfl
  rw [hcolumns, ne_eq, List.map_eq_nil_iff, List.filter_filter, List.filter_eq_nil_iff]
  simp

/-- Which tags are returned does not matter for the ends. -/
theorem ends_ne_nil_iff :
    (∀ returned, (of groupBy returned).source ≠ [] ∧ (of groupBy returned).target ≠ []) ↔
      ∀ side, ∃ row ∈ groupBy, row.side = some side ∧ row.hasKey = true := by
  constructor
  · intro hends side
    obtain ⟨hsource, htarget⟩ := hends []
    cases side with
    | source => exact columnsAt_ne_nil_iff.mp hsource
    | target => exact columnsAt_ne_nil_iff.mp htarget
  · intro hkeyed returned
    exact ⟨columnsAt_ne_nil_iff.mpr (hkeyed .source), columnsAt_ne_nil_iff.mpr (hkeyed .target)⟩

end Relationship

namespace Form

variable {f : Form}

/-- The form without its blank group-by rows. -/
def dropBlankGroups (f : Form) : Form := { f with groupBy := f.groupBy.filter Row.hasKey }

theorem isGrouped_dropBlankGroups : f.dropBlankGroups.isGrouped = f.isGrouped := by
  unfold isGrouped dropBlankGroups
  simp

theorem hasSide_dropBlankGroups_iff {side : Side} :
    f.dropBlankGroups.hasSide side = true ↔ ∃ row ∈ f.groupBy, row.side = some side ∧ row.hasKey = true := by
  unfold hasSide dropBlankGroups
  simp [and_comm]

/-- Of all that validation asks for, only the sides can be missing without the blank rows. -/
theorem IsValid.dropBlankGroups_iff (h : f.IsValid) :
    f.dropBlankGroups.IsValid ↔
      (f.appType = .accessRelationship → f.dropBlankGroups.hasSide .source = true ∧
        f.dropBlankGroups.hasSide .target = true) :=
  ⟨fun hvalid => hvalid.sides, fun hsides =>
    { sides := hsides
      selection := h.selection
      functions := fun hgrouped => h.functions (isGrouped_dropBlankGroups.symm.trans hgrouped)
      metrics := h.metrics
      filters := h.filters
      derivatives := h.derivatives }⟩

/-- **When both ends of a relationship are there.** A valid form has group-by rows on both sides. Both ends have
columns, whatever tags are returned, exactly if there are rows with keys on both sides, and so exactly if the form is
valid without its blank group-by rows. -/
theorem relationship_ends_iff (happ : f.appType = .accessRelationship) (hvalid : f.fault? = none) :
    (∀ side, ∃ row ∈ f.groupBy, row.side = some side) ∧
    ((∀ returned, (Relationship.of f.groupBy returned).source ≠ [] ∧
        (Relationship.of f.groupBy returned).target ≠ []) ↔
      ∀ side, ∃ row ∈ f.groupBy, row.side = some side ∧ row.hasKey = true) ∧
    ((∀ returned, (Relationship.of f.groupBy returned).source ≠ [] ∧
        (Relationship.of f.groupBy returned).target ≠ []) ↔
      f.dropBlankGroups.fault? = none) := by
  have hform := fault?_eq_none_iff.mp hvalid
  refine ⟨fun side => ?_, Relationship.ends_ne_nil_iff, ?_⟩
  · obtain ⟨hsource, htarget⟩ := hform.sides happ
    have hside : f.hasSide side = true := by cases side <;> assumption
    simpa [hasSide] using hside
  · rw [Relationship.ends_ne_nil_iff, fault?_eq_none_iff, hform.dropBlankGroups_iff]
    simp only [hasSide_dropBlankGroups_iff]
    constructor
    · exact fun hkeyed _ => ⟨hkeyed .source, hkeyed .target⟩
    · intro hsides side
      obtain ⟨hsource, htarget⟩ := hsides happ
      cases side <;> assumption

/-- Two blank group-by rows with sides pass validation and leave both ends without columns. -/
theorem relationship_ends_not :
    let f : Form := { Form.new .accessRelationship with
      select := [{ kind := .metric, key := "byte" }]
      groupBy := [{ Row.tag "" with side := some .source }, { Row.tag "" with side := some .target }] }
    f.fault? = none ∧ ¬∀ returned, (Relationship.of f.groupBy returned).source ≠ [] ∧
      (Relationship.of f.groupBy returned).target ≠ [] := by
  intro f
  have hfault : f.fault? = none := by decide
  refine ⟨hfault, fun hends => ?_⟩
  have hdropped := (relationship_ends_iff rfl hfault).2.2.mp hends
  exact absurd hdropped (by decide)

end Form
end PanelQuery
