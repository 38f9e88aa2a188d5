import PanelQuery.Proofs.Editor.Pruning

/-!
# What becomes of functions

While nothing is grouped, what follows from an edit takes the functions of all rows of the select, having and order-by
clauses away, of tags as well as of metrics (`Form.rows_cascade_of_not_isGrouped`); while grouping it only takes rows
away (`Form.tags_cascade_sublist`). So the tags that an edit leaves keep their functions exactly if the form groups, if
nothing follows, or if they had none (`Form.tagFunctions_kept_iff`).
-/

namespace PanelQuery

namespace Row

def isTag (r : Row) : Bool := r.kind == .tag

/-- Whether a row applies no function to its key. -/
def IsPlain (r : Row) : Prop := r.func = "" ∧ r.params = .empty ∧ r.subFuncs = []

variable {r : Row}

theorem isTag_iff : r.isTag = true ↔ r.kind = .tag := beq_iff_eq

theorem isPlain_clearFunc (r : Row) : r.clearFunc.IsPlain := ⟨rfl, rfl, rfl⟩

/-- A row is left alone by losing its functions exactly if it has none. -/
theorem clearFunc_eq_self_iff : r.clearFunc = r ↔ r.IsPlain := by
  constructor
  · intro hsame
    exact hsame ▸ r.isPlain_clearFunc
  · intro hplain
    obtain ⟨kind, key, func, params⟩ := r
    obtain ⟨rfl, rfl, rfl⟩ := hplain
    rfl

end Row

def tagRows (rows : List Row) : List Row := rows.filter Row.isTag

theorem tagRows_map_clearFunc (rows : List Row) : tagRows (rows.map Row.clearFunc) = (tagRows rows).map Row.clearFunc :=
  List.filter_map

/-- Clearing functions takes no row away, so it leaves rows of the list only if there are none to clear. -/
theorem map_clearFunc_sublist_iff {rows : List Row} :
    (rows.map Row.clearFunc).Sublist rows ↔ ∀ r ∈ rows, r.IsPlain := by
  simp only [← Row.clearFunc_eq_self_iff]
  constructor
  · intro hsub
    have hsame : rows.map Row.clearFunc = rows.map id := by
      rw [List.map_id]
      exact hsub.eq_of_length (List.length_map _)
    exact List.map_inj_left.mp hsame
  · intro hplain
    have hsame : rows.map Row.clearFunc = rows := (List.map_congr_left hplain).trans (List.map_id rows)
    exact hsame.symm ▸ .refl rows

/-- A clause that keeps some of its rows gains no row on a tag. -/
theorem tagRows_refilled_sublist {blank : Row} {p : Row → Bool} {rows : List Row} (hblank : blank.isTag = false) :
    (tagRows (Form.refilled blank (rows.filter p))).Sublist (tagRows rows) := by
  unfold Form.refilled
  split
  · simp [tagRows, hblank]
  · exact List.filter_sublist.filter Row.isTag

/-! ## What follows from an edit -/

/-- The clauses whose rows lose their functions while nothing is grouped. -/
def Clause.withFunctions : List Clause := [select, having, orderBy]

namespace Form

section Cascades

variable {f : Form} {c d : Clause}

/-- Without grouping functions are cleared, whatever the rows are on. -/
theorem rows_cascade_of_not_isGrouped (hc : c = .groupBy ∨ c = .select) (hd : d ∈ Clause.withFunctions)
    (h : f.isGrouped = false) : (f.cascade c).rows d = (f.rows d).map Row.clearFunc := by
  have hselect : f.pruneSelect = f := if_pos (by simp [h])
  have hcascade : f.cascade c = f.pruneOrder := by
    rcases hc with rfl | rfl
    · rw [cascade, hselect]
    · rfl
  rw [hcascade, pruneOrder, if_pos (by simp [h])]
  simp only [Clause.withFunctions, List.mem_cons, List.not_mem_nil, or_false] at hd
  rcases hd with rfl | rfl | rfl <;> rfl

/-- Pruning the select clause puts no rows on tags. -/
theorem tags_pruneSelect_sublist (h : f.isGrouped = true) :
    (tagRows (f.pruneSelect.rows d)).Sublist (tagRows (f.rows d)) := by
  cases d with
  | select =>
    rw [rows, rows, select_pruneSelect h]
    exact tagRows_refilled_sublist rfl
  | _ =>
    unfold pruneSelect
    split <;> exact .refl _

/-- Pruning the order-by clause puts no rows on tags. -/
theorem tags_pruneOrder_sublist (h : f.isGrouped = true) :
    (tagRows (f.pruneOrder.rows d)).Sublist (tagRows (f.rows d)) := by
  cases d with
  | orderBy =>
    rw [rows, rows, orderBy_pruneOrder h]
    exact tagRows_refilled_sublist rfl
  | _ =>
    unfold pruneOrder
    rw [if_neg (by simp [h])]
    exact .refl _

/-- While grouping, tags are taken away as a whole. -/
theorem tags_cascade_sublist (h : f.isGrouped = true) :
    (tagRows ((f.cascade c).rows d)).Sublist (tagRows (f.rows d)) := by
  cases c with
  | groupBy => exact (tags_pruneOrder_sublist (isGrouped_pruneSelect.trans h)).trans (tags_pruneSelect_sublist h)
  | select => exact tags_pruneOrder_sublist h
  | filter | having | orderBy => exact .refl _

end Cascades

section Edits

variable {f : Form} {e : Edit} {c : Clause}

/-- Where functions are not cleared, the tags that are left are as they were. -/
theorem tags_apply_sublist (hreset : e.isReset = false) (h : e.Reorders f → (f.apply e).isGrouped = true) :
    (tagRows ((f.apply e).rows c)).Sublist (tagRows (f.edited e c)) := by
  by_cases he : e.Reorders f
  · obtain ⟨d, -, g, hrows, happly⟩ := exists_cascade_of_reorders he
    rw [happly] at h ⊢
    rw [← hrows]
    exact tags_cascade_sublist (isGrouped_cascade.symm.trans (h he))
  · exact rows_apply_of_not_reorders hreset he ▸ .refl _

/-- Where they are cleared, they are cleared in all rows. -/
theorem rows_apply_of_not_isGrouped (he : e.Reorders f) (hgrouped : (f.apply e).isGrouped = false)
    (hc : c ∈ Clause.withFunctions) : (f.apply e).rows c = (f.edited e c).map Row.clearFunc := by
  obtain ⟨d, hd, g, hrows, happly⟩ := exists_cascade_of_reorders he
  rw [happly] at hgrouped ⊢
  rw [rows_cascade_of_not_isGrouped hd hc (isGrouped_cascade.symm.trans hgrouped), hrows]

end Edits

/-- **When tags keep their functions.** The tags of a clause after an edit are, but for their functions, tags that the
clause had once the row of the edit itself was set, added or removed, in the same order. They have kept their functions
exactly if nothing follows from the edit, if the form groups afterwards, or if they had none; for what follows while
nothing is grouped clears the functions of all rows. -/
theorem tagFunctions_kept_iff (f : Form) (e : Edit) (c : Clause) (hreset : e.isReset = false)
    (hc : c ∈ Clause.withFunctions) :
    ((tagRows ((f.apply e).rows c)).map Row.clearFunc).Sublist ((tagRows (f.edited e c)).map Row.clearFunc) ∧
    ((tagRows ((f.apply e).rows c)).Sublist (tagRows (f.edited e c)) ↔
      (e.Reorders f → (f.apply e).isGrouped = false → ∀ r ∈ f.edited e c, r.kind = .tag → r.IsPlain)) ∧
    (e.Reorders f → (f.apply e).isGrouped = false → (f.apply e).rows c = (f.edited e c).map Row.clearFunc) := by
  by_cases hcleared : e.Reorders f ∧ (f.apply e).isGrouped = false
  · obtain ⟨he, hgrouped⟩ := hcleared
    have hrows := rows_apply_of_not_isGrouped he hgrouped hc
    have htags : tagRows ((f.apply e).rows c) = (tagRows (f.edited e c)).map Row.clearFunc := by
      rw [hrows, tagRows_map_clearFunc]
    rw [htags]
    refine ⟨map_clearFunc_sublist_iff.mpr ?_, map_clearFunc_sublist_iff.trans ?_, fun _ _ => hrows⟩
    · intro r hr
      obtain ⟨s, -, rfl⟩ := List.mem_map.mp hr
      exact s.isPlain_clearFunc
    · simp only [tagRows, List.mem_filter, Row.isTag_iff, and_imp]
      exact ⟨fun hplain _ _ => hplain, fun hplain => hplain he hgrouped⟩
  · have hkept : e.Reorders f → (f.apply e).isGrouped = true := fun he =>
      Bool.not_eq_false _ |>.mp fun hgrouped => hcleared ⟨he, hgrouped⟩
    have hsub := tags_apply_sublist (c := c) hreset hkept
    exact ⟨hsub.map _, iff_of_true hsub fun he hgrouped => absurd ⟨he, hgrouped⟩ hcleared,
      fun he hgrouped => absurd ⟨he, hgrouped⟩ hcleared⟩

/-- Names of codes are chosen for a selected tag while nothing is grouped, and are gone at once. -/
theorem tagFunctions_kept_not :
    let protocol : Row := { Row.tag "l7_protocol" with func := "Enum" }
    let f : Form := { new .trafficQuery with select := [Row.tag "l7_protocol"] }
    let e : Edit := .setRow .select 0 protocol
    e.isReset = false ∧ protocol ∈ f.edited e .select ∧ (f.apply e).select = [Row.tag "l7_protocol"] ∧
      ¬(tagRows ((f.apply e).rows .select)).Sublist (tagRows (f.edited e .select)) := by
  intro protocol f e
  have hmem : protocol ∈ f.edited e .select := by decide
  obtain ⟨-, hiff, -⟩ := tagFunctions_kept_iff f e .select rfl (by decide)
  refine ⟨rfl, hmem, rfl, fun hsub => ?_⟩
  have hplain : protocol.IsPlain := hiff.mp hsub (.inr rfl) rfl protocol hmem rfl
  exact absurd hplain.1 (by decide)

end Form
end PanelQuery
