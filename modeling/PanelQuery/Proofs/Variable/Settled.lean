import PanelQuery.Proofs.Condition.Metric
import PanelQuery.Proofs.Variable.Override
import PanelQuery.Payload

/-!
# Queries with scoped values

A query is compiled against scoped values, or with the choices that they make made by the variables themselves. The
conditions are the same either way, as long as scoped values are found by name (`condition_settle_iff`). But the
interval of a form does not look for a scoped value of the variable that it names: the time buckets are the same only if
the variable's own choice comes to the same width (`Form.timeBucket?_settle_iff`). Together that is when the queries are
the same (`Form.compile_settle_iff`).
-/

namespace PanelQuery

/-! ## Conditions -/

/-- The context of a query in which all variables of that name make a choice of their own. -/
def Context.settle (ctx : Context) (name : String) (c : Current) : Context :=
  { ctx with toVarContext := ctx.toVarContext.settle name c }

section Conditions

variable {f : Form} {ctx ctx' : Context} {r : Row}

/-- The condition of a row depends on what its values stand for. -/
theorem Row.normalize?_congr (htable : ctx.table = ctx'.table)
    (h : ∀ item op, ctx.resolveItem item (some op) = ctx'.resolveItem item (some op)) :
    r.normalize? ctx = r.normalize? ctx' := by
  have hoperand : ∀ op, ctx.operand op r.val = ctx'.operand op r.val := by
    intro op
    cases r.val with
    | none => rfl
    | some val => cases val <;> simp only [Context.operand, h]
  have htag : ∀ isForbidden op val, r.tagCondition ctx isForbidden op val = r.tagCondition ctx' isForbidden op val := by
    intro isForbidden op val
    rw [tagCondition, tagCondition, htable]
  unfold normalize?
  simp only [hoperand, htag]

theorem Form.condition_congr (htable : ctx.table = ctx'.table)
    (h : ∀ item op, ctx.resolveItem item (some op) = ctx'.resolveItem item (some op)) :
    f.condition ctx = f.condition ctx' := by
  unfold condition
  rw [funext fun row : Row => Row.normalize?_congr htable h]

def Form.ofHaving (r : Row) : Form := { Form.new .trafficQuery with filter := [], having := [r] }

/-- What is no group in the condition of one metric row is the condition of that row. -/
theorem Form.ungrouped_condition_ofHaving (hkey : r.hasKey = true) (hkind : r.kind = .metric) :
    ((ofHaving r).condition ctx).filter (fun c => !c.isGroup) =
      ((ctx.operand r.conditionOperator r.val).verdict?.map fun verdict =>
        r.metricCondition verdict.1 r.conditionOperator verdict.2).toList := by
  have hbounds : (timeBounds.filterMap fun row => row.normalize? ctx).filterMap Normalized.metric? = [] := by
    have htags : ∀ bound ∈ timeBounds, bound.kind = .tag := by decide
    refine List.eq_nil_iff_forall_not_mem.mpr fun m hm => ?_
    obtain ⟨bound, hbound, hnorm⟩ := List.mem_filterMap.mp (mem_filterMap_metric?.mp hm)
    obtain ⟨-, _, _, ⟨hmetric, -⟩ | ⟨-, htag⟩⟩ := Row.normalize?_eq_some hnorm
    · cases (htags bound hbound).symm.trans hmetric
    · cases htag
  rw [condition, ungrouped_joinConditions fun _ => Row.wellFormed_of_mem_filterMap]
  show ((timeBounds ++ [r]).filterMap _).filterMap _ = _
  rw [List.filterMap_append, List.filterMap_append, hbounds, List.nil_append, List.filterMap_cons, List.filterMap_nil,
    Row.normalize?_metric hkey hkind]
  cases (ctx.operand r.conditionOperator r.val).verdict? <;> rfl

/-- A metric row that compares with one value item. -/
def Row.comparing (item : ValueItem) (op : Operator) : Row :=
  { kind := .metric, key := "byte", op := op.text, val := some (.single item) }

/-- The condition of such a row tells what its item stands for. -/
theorem resolveItem_eq_of_condition_eq {item : ValueItem} {op : Operator} (hop : op = .like ∨ op = .equal)
    (h : (Form.ofHaving (.comparing item op)).condition ctx = (Form.ofHaving (.comparing item op)).condition ctx') :
    ctx.resolveItem item (some op) = ctx'.resolveItem item (some op) := by
  have hoperator : (Row.comparing item op).conditionOperator = op := by
    show Row.conditionOperator { kind := .metric, op := op.text } = op
    rcases hop with rfl | rfl <;> rfl
  have hcondition : ∀ isForbidden val, (Row.comparing item op).metricCondition isForbidden op val =
      .leaf { isForbidden, kind := .metric, key := "byte", op, val } := fun _ _ => rfl
  have hungrouped := congrArg (List.filter fun c => !c.isGroup) h
  rw [Form.ungrouped_condition_ofHaving rfl rfl, Form.ungrouped_condition_ofHaving rfl rfl, hoperator] at hungrouped
  simp only [hcondition] at hungrouped
  have hoperand : ctx.operand op (some (.single item)) = ctx'.operand op (some (.single item)) := by
    refine RowOperand.verdict?_inj.mp ?_
    show (ctx.operand op (Row.comparing item op).val).verdict? = (ctx'.operand op (Row.comparing item op).val).verdict?
    cases hleft : (ctx.operand op (Row.comparing item op).val).verdict? <;>
      cases hright : (ctx'.operand op (Row.comparing item op).val).verdict? <;>
      simp_all [Prod.ext_iff]
  simp only [Context.operand] at hoperand
  cases hleft : ctx.resolveItem item (some op) <;> cases hright : ctx'.resolveItem item (some op) <;>
    simp_all [RowOperand.ofResolved]

/-- Conditions are the same with the choice of a scoped value made by its variable exactly if no scoped value is found
by the text of a reference, or it makes no difference. -/
theorem condition_settle_iff {x : String} {v : Variable} {b : Binding} (hb : ctx.binding? x = some b)
    (hv : ctx.typed? x = some v) :
    (∀ f : Form, f.condition ctx = f.condition (ctx.settle x b.choice)) ↔ ctx.Separates x v b := by
  constructor
  · intro h
    exact VarContext.separates_of_forall hb hv fun item op hop => (resolveItem_eq_of_condition_eq hop (h _)).symm
  · intro h f
    exact Form.condition_congr rfl fun item op => (h.resolveItem_settle hb hv).symm

end Conditions

/-! ## Intervals -/

namespace Interval

/-- The declared variable that the interval of a form names, if it is no variable for the suggested width. -/
def named? (ctx : VarContext) (text : String) : Option Variable :=
  let raw := Text.trim text
  let name := (reference? raw).getD raw
  if raw.isEmpty || (name == "__interval" || name == suggestedName) then none
  else (ctx.declared? raw).or (ctx.declared? name)

/-- Whether the interval of a form names the variable of that name. -/
def Names (ctx : VarContext) (text x : String) : Prop := ∃ w, named? ctx text = some w ∧ w.name = x

section Resolution

variable {ctx ctx' : Context} {x text : String} {c : Current} {v w : Variable}

theorem named?_settle : named? (ctx.settle x c).toVarContext text =
    (named? ctx.toVarContext text).map fun v => if v.name = x then v.choosing c else v := by
  unfold named?
  dsimp only
  split
  · rfl
  · rw [Context.settle, VarContext.declared?_settle, VarContext.declared?_settle, ← Option.map_or]

/-- The width of a variable depends on the range of time alone. -/
theorem ofVariable_settle : ofVariable (ctx.settle x c) w = ofVariable ctx w := by
  have hrange : (ctx.settle x c).range = ctx.range := rfl
  unfold ofVariable ofText automatic
  rw [hrange]

theorem declared?_of_named? (h : named? ctx.toVarContext text = some w) : ctx.declared? w.name = some w := by
  unfold named? at h
  dsimp only at h
  split at h
  · cases h
  · rcases Option.or_eq_some_iff.mp h with h | ⟨-, h⟩
    · exact VarContext.name_of_declared? h ▸ h
    · exact VarContext.name_of_declared? h ▸ h

/-- An interval that names a variable has the width of that. -/
theorem resolve?_of_named? (h : named? ctx.toVarContext text = some w) :
    resolve? ctx text = some (ofVariable ctx w) := by
  unfold named? at h
  unfold resolve?
  dsimp only at h ⊢
  split at h
  · cases h
  · next hnot =>
    simp only [Bool.or_eq_true, not_or] at hnot
    rw [if_neg hnot.1, if_neg (by simpa using hnot.2), h]

/-- An interval that names no variable depends on the suggested width alone. -/
theorem resolve?_congr (hnumber : ctx.number? suggestedName = ctx'.number? suggestedName)
    (h : named? ctx.toVarContext text = none) (h' : named? ctx'.toVarContext text = none) :
    resolve? ctx text = resolve? ctx' text := by
  have htext : ∀ ctx : Context, ∀ raw, ofText ctx none raw = ofText ctx' none raw := by
    intro ctx raw
    have hauto : ∀ ctx : Context, automatic ctx none raw = .raw raw := by
      intro ctx
      unfold automatic
      cases ctx.range <;> rfl
    rw [ofText, ofText, hauto, hauto]
  unfold named? at h h'
  unfold resolve?
  dsimp only at h h' ⊢
  rw [hnumber]
  split at h
  · next hspecial =>
    split
    · rfl
    · next hraw =>
      rw [Bool.or_eq_true, or_iff_right hraw] at hspecial
      rw [if_pos hspecial, if_pos hspecial]
  · next hnot =>
    rw [if_neg hnot] at h'
    simp only [Bool.or_eq_true, not_or] at hnot
    have hname := mt Bool.or_eq_true_iff.mp (not_or.mpr hnot.2)
    rw [if_neg hnot.1, if_neg hnot.1, if_neg hname, if_neg hname, h, h', htext]

end Resolution

/-- The width that a variable comes to, as it is written. -/
def width (ctx : Context) (v : Variable) : Scalar := (ofVariable ctx v).toScalar

end Interval

/-! ## Queries -/

section Query

variable {f : Form} {ctx ctx' : Context} {x : String} {c : Current} {v : Variable}

/-- Time buckets are the same if their widths are written alike. -/
theorem Form.timeBucket?_eq_iff : f.timeBucket? ctx = f.timeBucket? ctx' ↔
    (Interval.resolve? ctx f.interval).map Interval.toScalar =
      (Interval.resolve? ctx' f.interval).map Interval.toScalar := by
  unfold timeBucket?
  cases Interval.resolve? ctx f.interval <;> cases Interval.resolve? ctx' f.interval
  · exact iff_of_true rfl rfl
  · simp
  · simp
  · next i j =>
    simp only [Option.map_some, Option.some.injEq, Selection.expr.injEq, Expr.column.injEq, Params.single.injEq,
      Interval.label, true_and]
    exact ⟨fun h => h.1, fun h => ⟨h, by rw [h]⟩⟩

/-- Queries differ in their conditions or their time buckets, if in anything. -/
theorem Form.compile_eq_iff : f.compile ctx = f.compile ctx' ↔
    f.condition ctx = f.condition ctx' ∧ f.timeBucket? ctx = f.timeBucket? ctx' := by
  constructor
  · intro h
    have hgroups := List.append_cancel_right (congrArg Payload.groupBy h)
    refine ⟨congrArg Payload.condition h, ?_⟩
    cases hbucket : f.timeBucket? ctx <;> cases hbucket' : f.timeBucket? ctx' <;> simp_all
  · rintro ⟨hcondition, hbucket⟩
    rw [compile, compile, hcondition, hbucket]

/-- The choice of a scoped value of its variable makes no difference to time buckets exactly if the interval does not
name the variable, or the variable's own choice comes to the same width. -/
theorem Form.timeBucket?_settle_iff (hx : x ≠ Interval.suggestedName) (hv : ctx.declared? x = some v) :
    f.timeBucket? ctx = f.timeBucket? (ctx.settle x c) ↔
      (Interval.Names ctx.toVarContext f.interval x →
        Interval.width ctx v = Interval.width ctx (v.choosing c)) := by
  rw [timeBucket?_eq_iff]
  have hsettle : Interval.named? (ctx.settle x c).toVarContext f.interval =
      (Interval.named? ctx.toVarContext f.interval).map fun v => if v.name = x then v.choosing c else v :=
    Interval.named?_settle
  cases hnamed : Interval.named? ctx.toVarContext f.interval with
  | none =>
    have hnumber : ctx.number? Interval.suggestedName = (ctx.settle x c).number? Interval.suggestedName := by
      unfold VarContext.number? Context.settle
      rw [VarContext.binding?_settle_of_ne hx.symm]
    rw [hnamed] at hsettle
    refine iff_of_true (congrArg _ (Interval.resolve?_congr hnumber hnamed hsettle)) ?_
    rintro ⟨w, hw, -⟩
    cases hnamed.symm.trans hw
  | some w =>
    rw [hnamed, Option.map_some] at hsettle
    rw [Interval.resolve?_of_named? hnamed, Interval.resolve?_of_named? hsettle, Interval.ofVariable_settle]
    by_cases hw : w.name = x
    · have hsame : w = v := by
        have hdeclared := Interval.declared?_of_named? hnamed
        rw [hw, hv] at hdeclared
        exact (Option.some.inj hdeclared).symm
      subst hsame
      have hnames : Interval.Names ctx.toVarContext f.interval x := ⟨w, hnamed, hw⟩
      rw [if_pos hw]
      exact Option.some_inj.trans ⟨fun h _ => h, fun h => h hnames⟩
    · rw [if_neg hw]
      refine iff_of_true rfl ?_
      rintro ⟨w', hw', hname⟩
      cases hnamed.symm.trans hw'
      exact absurd hname hw

/-- **When a scoped value overrides the choice of its variable.** A query with a scoped value and the query in which the
variable makes that choice itself are the same for all forms exactly if no scoped value is found by the text of a
reference, or it makes no difference, and, if any interval names the variable, the variable's own choice comes to the
same width. As long as scoped values are found by name, the two queries of a form are the same exactly if its interval
does not name the variable, or the widths are the same. -/
theorem Form.compile_settle_iff (ctx : Context) (x : String) (v : Variable) (b : Binding)
    (hx : x ≠ Interval.suggestedName) (hv : ctx.typed? x = some v) (hb : ctx.binding? x = some b) :
    ((∀ f : Form, f.compile ctx = f.compile (ctx.settle x b.choice)) ↔
      ctx.Separates x v b ∧ ((∃ text, Interval.Names ctx.toVarContext text x) →
        Interval.width ctx v = Interval.width ctx (v.choosing b.choice))) ∧
    (ctx.Separates x v b → ∀ f : Form,
      (f.compile ctx = f.compile (ctx.settle x b.choice) ↔
        (Interval.Names ctx.toVarContext f.interval x →
          Interval.width ctx v = Interval.width ctx (v.choosing b.choice)))) := by
  have hdeclared := VarContext.declared?_of_typed? hv
  have hform : ctx.Separates x v b → ∀ f : Form,
      (f.compile ctx = f.compile (ctx.settle x b.choice) ↔
        (Interval.Names ctx.toVarContext f.interval x →
          Interval.width ctx v = Interval.width ctx (v.choosing b.choice))) := by
    intro hseparates f
    rw [compile_eq_iff, and_iff_right ((condition_settle_iff hb hv).mpr hseparates f)]
    exact timeBucket?_settle_iff hx hdeclared
  refine ⟨⟨fun hall => ?_, fun ⟨hseparates, hwidth⟩ f => ?_⟩, hform⟩
  · have hseparates := (condition_settle_iff hb hv).mp fun f => (compile_eq_iff.mp (hall f)).1
    refine ⟨hseparates, fun ⟨text, hnames⟩ => ?_⟩
    exact (hform hseparates { Form.new .trafficQuery with interval := text }).mp (hall _) hnames
  · exact (hform hseparates f).mpr fun hnames => hwidth ⟨_, hnames⟩

/-- A scoped width of five minutes does not override a width of ten. -/
theorem Form.compile_settle_not :
    let step : Variable :=
      ⟨"step", some "interval", some ⟨.one (.text "600"), .one (.text "600")⟩, [], none, none⟩
    let b : Binding := ⟨.one (.text "300"), none⟩
    let ctx : Context := { declared := [step], bindings := [("step", b)] }
    let f : Form := { Form.new .trafficQuery with interval := "$step" }
    f.compile ctx ≠ f.compile (ctx.settle "step" b.choice) := by
  intro step b ctx f hsame
  have hb : ctx.binding? "step" = some b := rfl
  have hseparates : ctx.Separates "step" step b := VarContext.separates_of_names hb (by decide)
  have hnames : Interval.Names ctx.toVarContext f.interval "step" := ⟨step, by decide, rfl⟩
  have hwidth := ((Form.compile_settle_iff ctx "step" step b (by decide) rfl hb).2 hseparates f).mp hsame hnames
  exact absurd hwidth (by decide)

end Query

end PanelQuery
