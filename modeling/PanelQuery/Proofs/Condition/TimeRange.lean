import PanelQuery.Payload
import PanelQuery.Proofs.Condition.Filters

/-!
# When the time range constrains a query

Every payload compares `time` with the bounds of the time range (`mem_items`), and the two comparisons are joined with
those of the form's own rows. They are of the range class, and the classes on a column are alternatives: the payload
implies the bounds only as long as the form compares `time` with nothing but bounds of its own, unless the payload is
false in any case, which takes a two-sided `LIKE` without patterns (`Form.timeRange_constrains_iff`).
-/

namespace PanelQuery

/-- The comparison with the start of the time range. -/
def lowerBound : Comparison := { key := "time", op := .atLeast, val := .one (.text timeFromPlaceholder) }

/-- The comparison with the end of the time range. -/
def upperBound : Comparison := { key := "time", op := .atMost, val := .one (.text timeToPlaceholder) }

/-! ## The bounds -/

/-- A reference to a variable that is not declared stands for itself. -/
theorem VarContext.resolveItem_undeclared {ctx : VarContext} {item : ValueItem} {name : String} (op : Option Operator)
    (hname : item.variableName? = some name) (hdeclared : ∀ v ∈ ctx.declared, v.name ≠ name) :
    ctx.resolveItem item op = .one item.value := by
  have hnone : ctx.declared? name = none := List.find?_eq_none.mpr fun v hv => by simpa using hdeclared v hv
  simp [resolveItem, hname, resolve?, hnone]

/-- A bound becomes the comparison it spells out, unless its variable is declared. -/
theorem normalize?_timeBound {ctx : Context} {op placeholder name : String}
    (htext : (timeBound op placeholder).conditionOperator.matchesText = false)
    (hname : reference? placeholder = some name) (hdeclared : ∀ v ∈ ctx.declared, v.name ≠ name) :
    (timeBound op placeholder).normalize? ctx = some (.tag
      { key := "time", op := (timeBound op placeholder).conditionOperator, val := .one (.text placeholder) }) := by
  have hitem : (ValueItem.literal (.text placeholder)).variableName? = some name := by
    simp [ValueItem.variableName?, ValueItem.value, Scalar.text?, hname]
  have hoperand : ctx.operand (timeBound op placeholder).conditionOperator (timeBound op placeholder).val =
      .value (.one (.text placeholder)) := by
    show RowOperand.ofResolved _ = _
    rw [VarContext.resolveItem_undeclared _ hitem hdeclared]
    rfl
  rw [Row.normalize?_tag rfl rfl hoperand, Row.tagCondition, htext]
  rfl

/-- The rows that make conditions are those of the form and the two bounds of the time. -/
theorem Form.mem_conditionRows {f : Form} {r : Row} :
    r ∈ f.conditionRows ↔ r ∈ f.filter ++ f.having ∨ r ∈ timeBounds := by
  simp only [conditionRows, List.mem_append]
  exact or_right_comm

/-- The conditions that the rows of the form itself make. -/
def Form.ownItems (f : Form) (ctx : Context) : List Normalized :=
  (f.filter ++ f.having).filterMap fun row => row.normalize? ctx

section Payload

variable {f : Form} {ctx : Context}

/-- What the condition of a query joins: the bounds, and the conditions of the form's rows. -/
theorem mem_items (h : ∀ v ∈ ctx.declared, v.name ≠ "__from" ∧ v.name ≠ "__to") {n : Normalized} :
    n ∈ f.conditionRows.filterMap (fun row => row.normalize? ctx) ↔
      n = .tag lowerBound ∨ n = .tag upperBound ∨ n ∈ f.ownItems ctx := by
  have hlower : (timeBound ">=" timeFromPlaceholder).normalize? ctx = some (.tag lowerBound) :=
    normalize?_timeBound rfl rfl fun v hv => (h v hv).1
  have hupper : (timeBound "<=" timeToPlaceholder).normalize? ctx = some (.tag upperBound) :=
    normalize?_timeBound rfl rfl fun v hv => (h v hv).2
  simp only [Form.conditionRows, Form.ownItems, timeBounds, List.filterMap_append, List.filterMap_cons, hlower, hupper,
    List.filterMap_nil, List.mem_append, List.mem_cons, List.not_mem_nil, or_false]
  constructor
  · rintro ((hn | hn | hn) | hn)
    · exact .inr (.inr (.inl hn))
    · exact .inl hn
    · exact .inr (.inl hn)
    · exact .inr (.inr (.inr hn))
  · rintro (hn | hn | hn | hn)
    · exact .inl (.inr (.inl hn))
    · exact .inl (.inr (.inr hn))
    · exact .inl (.inl hn)
    · exact .inr hn

/-- The plain comparisons of a query. -/
theorem mem_plainLeaves_items (h : ∀ v ∈ ctx.declared, v.name ≠ "__from" ∧ v.name ≠ "__to") {l : Comparison} :
    l ∈ plainLeaves (f.conditionRows.filterMap fun row => row.normalize? ctx) ↔
      l = lowerBound ∨ l = upperBound ∨ l ∈ plainLeaves (f.ownItems ctx) := by
  rw [mem_plainLeaves, mem_plainLeaves]
  constructor
  · rintro ⟨c, hc, hplain, hl⟩
    rcases (mem_items h).mp hc with heq | heq | hown
    · cases heq
      exact .inl (List.mem_singleton.mp hl)
    · cases heq
      exact .inr (.inl (List.mem_singleton.mp hl))
    · exact .inr (.inr ⟨c, hown, hplain, hl⟩)
  · rintro (rfl | rfl | ⟨c, hown, hplain, hl⟩)
    · exact ⟨lowerBound, (mem_items h).mpr (.inl rfl), rfl, List.mem_singleton.mpr rfl⟩
    · exact ⟨upperBound, (mem_items h).mpr (.inr (.inl rfl)), rfl, List.mem_singleton.mpr rfl⟩
    · exact ⟨c, (mem_items h).mpr (.inr (.inr hown)), hplain, hl⟩

/-- Where the form compares `time` with bounds only, both ends of the range hold with the rest. -/
theorem bounds_of_satisfies {t : Assignment} (h : ∀ v ∈ ctx.declared, v.name ≠ "__from" ∧ v.name ≠ "__to")
    (hrange : ∀ l ∈ plainLeaves (f.ownItems ctx), l.key = "time" → l.op.class? = some .range)
    (ht : t.Satisfies (f.conditionRows.filterMap fun row => row.normalize? ctx)) :
    t.leaf lowerBound = true ∧ t.leaf upperBound = true := by
  have hlower := (mem_plainLeaves_items (f := f) h).mpr (.inl rfl)
  have hupper := (mem_plainLeaves_items (f := f) h).mpr (.inr (.inl rfl))
  obtain ⟨l, hl, hkey, hholds⟩ := ht.columns _ hlower
  have hclass : l.op.class? = some .range := by
    rcases (mem_plainLeaves_items h).mp hl with rfl | rfl | hown
    · rfl
    · rfl
    · exact hrange l hown hkey
  rw [hclass, Assignment.ClassHolds, if_neg (by decide)] at hholds
  exact ⟨hholds _ hlower rfl rfl, hholds _ hupper rfl rfl⟩

/-- Any comparison but the one with the start of the range is true. -/
def allButLower : Assignment := ⟨fun l => l ≠ lowerBound, fun _ => true⟩

theorem allButLower_leaf {l : Comparison} : allButLower.leaf l = true ↔ l ≠ lowerBound := decide_eq_true_iff

/-- Every two-sided condition holds where only the lower bound fails, unless it has no pattern to match. -/
theorem allButLower_sides {c : Comparison} (hsided : c.whereOnly = true)
    (hpattern : ¬(c.op = .like ∧ c.val = .many [])) :
    allButLower.HoldsOnSides c := by
  have hleaf : ∀ l ∈ c.sidedLeaves, allButLower.leaf l = true := by
    intro l hl
    refine allButLower_leaf.mpr fun heq => ?_
    rw [heq] at hl
    cases hsided.symm.trans (Comparison.whereOnly_of_mem_sidedLeaves hl).symm
  unfold Assignment.HoldsOnSides
  split
  · exact hleaf
  · next hpositive =>
    have hsome : ¬c.HasNoPattern := by
      rintro ⟨hlike, hval⟩
      cases hop : c.op <;> simp_all [Operator.isLike, Operator.isNegated]
    obtain ⟨l, hl⟩ := List.exists_mem_of_ne_nil _ (mt Comparison.sidedLeaves_eq_nil_iff.mp hsome)
    exact ⟨l, hl, hleaf l hl⟩

/-- Where the form compares `time` otherwise, the start of the range may fail with all else true. -/
theorem allButLower_satisfies (h : ∀ v ∈ ctx.declared, v.name ≠ "__from" ∧ v.name ≠ "__to") {l : Comparison}
    (hl : l ∈ plainLeaves (f.ownItems ctx)) (hkey : l.key = "time") (hclass : l.op.class? ≠ some .range)
    (hpattern : ∀ c, .tag c ∈ f.ownItems ctx → c.whereOnly = true → ¬(c.op = .like ∧ c.val = .many [])) :
    allButLower.Satisfies (f.conditionRows.filterMap fun row => row.normalize? ctx) := by
  refine ⟨fun m hm => ?_, fun c hc hsided => ?_, fun l' hl' => ?_⟩
  · have hwf : (Normalized.metric m).WellFormed := Row.wellFormed_of_mem_filterMap hm
    match m, hwf with
    | .leaf l, hwf =>
      rw [Condition.holds]
      refine allButLower_leaf.mpr fun heq => ?_
      rw [heq] at hwf
      cases hwf
    | .composed e, _ => rw [Condition.holds]; rfl
  · refine allButLower_sides hsided fun hnone => ?_
    rcases (mem_items h).mp hc with heq | heq | hown
    · cases heq; cases hsided
    · cases heq; cases hsided
    · exact hpattern c hown hsided hnone
  · by_cases hkey' : l'.key = "time"
    · have hmem := (mem_plainLeaves_items h).mpr (.inr (.inr hl))
      refine ⟨l, hmem, hkey.trans hkey'.symm, ?_⟩
      rw [hkey', ← hkey]
      refine Assignment.classHolds_of_forall hmem fun l'' _ _ hsame => allButLower_leaf.mpr ?_
      rintro rfl
      exact hclass hsame.symm
    · refine ⟨l', hl', rfl, Assignment.classHolds_of_forall hl' fun l'' _ hsame _ => allButLower_leaf.mpr ?_⟩
      rintro rfl
      exact hkey' hsame.symm

/-- **When the time range constrains.** A payload is true only within the time range exactly if the form compares
`time` with bounds only, or has a two-sided `LIKE` without patterns, with which it is never true. -/
theorem Form.timeRange_constrains_iff (h : ∀ v ∈ ctx.declared, v.name ≠ "__from" ∧ v.name ≠ "__to") :
    (∀ t : Assignment, (∀ c ∈ (f.compile ctx).condition, c.holds t = true) →
        t.leaf lowerBound = true ∧ t.leaf upperBound = true) ↔
      (∀ l ∈ plainLeaves (f.ownItems ctx), l.key = "time" → l.op.class? = some .range) ∨
        ∃ c, .tag c ∈ f.ownItems ctx ∧ c.whereOnly = true ∧ c.op = .like ∧ c.val = .many [] := by
  constructor
  · intro hbounds
    by_cases hrange : ∀ l ∈ plainLeaves (f.ownItems ctx), l.key = "time" → l.op.class? = some .range
    · exact .inl hrange
    · refine .inr (Classical.not_not.mp fun hpattern => ?_)
      simp only [Classical.not_forall] at hrange
      obtain ⟨l, hl, hkey, hclass⟩ := hrange
      have hsat := allButLower_satisfies h hl hkey hclass fun c hc hsided hnone => hpattern ⟨c, hc, hsided, hnone⟩
      have hlower := (hbounds allButLower (holds_joinConditions.mpr hsat)).1
      exact allButLower_leaf.mp hlower rfl
  · rintro (hrange | ⟨c, hc, hsided, hop, hval⟩) t ht
    · exact bounds_of_satisfies h hrange (holds_joinConditions.mp ht)
    · have hholds := (holds_joinConditions.mp ht).sides c ((mem_items h).mpr (.inr (.inr hc))) hsided
      rw [Assignment.HoldsOnSides, if_neg (by simp [hop, Operator.isNegated])] at hholds
      obtain ⟨l, hl, -⟩ := hholds
      have hnone : c.HasNoPattern := ⟨by rw [hop]; rfl, hval⟩
      rw [Comparison.sidedLeaves_eq_nil_iff.mpr hnone] at hl
      cases hl

/-- A filter for one point in time takes the place of the time range. -/
theorem Form.timeRange_constrains_not :
    let f : Form := { Form.new .trafficQuery with
      filter := [{ Row.tag "time" with op := "=", val := some (.literal (.text "5")) }] }
    let ctx : Context := { VarContext.empty with }
    (∀ v ∈ ctx.declared, v.name ≠ "__from" ∧ v.name ≠ "__to") ∧
      ¬∀ t : Assignment, (∀ c ∈ (f.compile ctx).condition, c.holds t = true) →
        t.leaf lowerBound = true ∧ t.leaf upperBound = true := by
  intro f ctx
  have hdeclared : ∀ v ∈ ctx.declared, v.name ≠ "__from" ∧ v.name ≠ "__to" := fun v hv => by cases hv
  let point : Comparison := { key := "time", op := .equal, val := .one (.text "5") }
  have hown : f.ownItems ctx = [.tag point] := rfl
  refine ⟨hdeclared, fun hconstrains => ?_⟩
  rcases (Form.timeRange_constrains_iff hdeclared).mp hconstrains with hrange | ⟨c, hc, hsided, -⟩
  · have hpoint : point ∈ plainLeaves (f.ownItems ctx) := by rw [hown]; exact List.mem_singleton.mpr rfl
    cases hrange point hpoint rfl
  · rw [hown] at hc
    cases List.mem_singleton.mp hc
    cases hsided

end Payload

end PanelQuery
