import PanelQuery.Proofs.Condition.Normal
import PanelQuery.Proofs.Variable.Sentinels

/-!
# Sentinels and conditions

Sentinels decide whether a row makes a condition and whether that is forbidden, and are not compared with. The value of
a row is taken together from what its items stand for (`Context.operand_cases`), and none of these values is a sentinel
if the items are references to choices (`Row.sentinels_stay_out`).
-/

namespace PanelQuery

/-! ## Conditions of rows -/

/-- The values that a column is compared with. -/
def CondValue.toList : CondValue → List Scalar
  | one value => [value]
  | many values => values

/-- Whether a condition is forbidden, and what it compares with; a group has neither. -/
def Condition.verdict? : Condition → Option (Bool × CondValue)
  | leaf c => some (c.isForbidden, c.val)
  | composed c => some (c.isForbidden, c.val)
  | group _ _ => none

/-- Whether the condition of a row is forbidden, and what it compares with. -/
def Normalized.verdict? : Normalized → Option (Bool × CondValue)
  | tag c => some (c.isForbidden, c.val)
  | metric m => m.verdict?

namespace Row

variable {r : Row}

/-- The condition of a metric tells what its row was resolved to. -/
theorem verdict?_metricCondition (isForbidden : Bool) (op : Operator) (val : CondValue) :
    (r.metricCondition isForbidden op val).verdict? = some (isForbidden, val) := by
  unfold metricCondition
  split <;> rfl

/-- A row with a key makes the condition that its operand asks for. -/
theorem map_verdict?_normalize? (ctx : Context) (hkey : r.hasKey = true) :
    (r.normalize? ctx).map Normalized.verdict? = (ctx.operand r.conditionOperator r.val).verdict?.map some := by
  cases hkind : r.kind with
  | metric =>
    rw [normalize?_metric hkey hkind, Option.map_map]
    exact congrArg (Option.map · _) (funext fun verdict => verdict?_metricCondition _ _ _)
  | tag =>
    simp only [normalize?, hkey, hkind, conditionOperator, Bool.not_true, Bool.false_eq_true, if_false]
    cases ctx.operand (r.operator?.getD (.other "")) r.val <;> rfl

end Row

/-! ## Operands -/

/-- Several items match anything or are switched off because one of them is, or are all the values that they stand
for. -/
theorem RowOperand.ofList_cases (items : List Resolved) :
    (ofList items = .any ∧ .any ∈ items) ∨ (ofList items = .disabled ∧ .disabled ∈ items) ∨
      ofList items = .value (.many (items.flatMap Resolved.values)) := by
  unfold ofList
  dsimp only
  split
  · next hdisabled => exact .inr (.inl ⟨rfl, List.contains_iff_mem.mp hdisabled⟩)
  · split
    · next hany => exact .inl ⟨rfl, List.contains_iff_mem.mp (Bool.and_eq_true_iff.mp hany).1⟩
    · refine .inr (.inr (congrArg (fun values => value (.many values)) ?_))
      exact congrArg items.flatMap (funext fun item => by cases item <;> rfl)

/-- The value of a row matches anything or is switched off because one of its items is, or it is all that the items
stand for. -/
theorem Context.operand_cases (ctx : Context) (op : Operator) (val : RowValue) :
    (ctx.operand op (some val) = .any ∧ ∃ item ∈ val.items, ctx.resolveItem item (some op) = .any) ∨
    (ctx.operand op (some val) = .disabled ∧ ∃ item ∈ val.items, ctx.resolveItem item (some op) = .disabled) ∨
    ∃ v, ctx.operand op (some val) = .value v ∧
      v.toList = val.items.flatMap fun item => (ctx.resolveItem item (some op)).values := by
  cases val with
  | single item =>
    have hitem : item ∈ (RowValue.single item).items := List.mem_singleton.mpr rfl
    rw [operand]
    cases hresolved : ctx.resolveItem item (some op) with
    | any => exact .inl ⟨rfl, item, hitem, hresolved⟩
    | disabled => exact .inr (.inl ⟨rfl, item, hitem, hresolved⟩)
    | one value => exact .inr (.inr ⟨_, rfl, by simp [RowValue.items, hresolved, Resolved.values, CondValue.toList]⟩)
    | many values => exact .inr (.inr ⟨_, rfl, by simp [RowValue.items, hresolved, Resolved.values, CondValue.toList]⟩)
  | list items =>
    rcases RowOperand.ofList_cases (items.map fun item => ctx.resolveItem item (some op)) with
      ⟨hany, hmem⟩ | ⟨hdisabled, hmem⟩ | hvalues
    · exact .inl ⟨hany, List.mem_map.mp hmem⟩
    · exact .inr (.inl ⟨hdisabled, List.mem_map.mp hmem⟩)
    · exact .inr (.inr ⟨_, hvalues, List.flatMap_map _ _ _⟩)

/-! ## References to choices -/

/-- No reference to a choice stands for a sentinel, where values are compared. -/
theorem VarContext.isSentinel_of_mem_resolveItem {ctx : VarContext} {item : ValueItem} {name : String} {v : Variable}
    {op : Operator} {s : Scalar} (h : ctx.RefersTo item name v) (hop : op.isLike = false)
    (hs : s ∈ (ctx.resolveItem item (some op)).values) : s.isSentinel = false := by
  rw [resolveItem_of_refersTo h, Option.any_some, hop] at hs
  exact isSentinel_of_mem_pick h.2.2 hs

/-- **Sentinels stay out of conditions.** A keyed row whose value is made of references to choices, and compares values,
makes no condition because one of them matches anything, or one that is forbidden because one of them is switched off,
or a condition with all that they stand for, which are no sentinels. -/
theorem Row.sentinels_stay_out (r : Row) (ctx : Context) (val : RowValue) (hkey : r.hasKey = true)
    (hval : r.val = some val) (hrefers : ∀ item ∈ val.items, ∃ name v, ctx.RefersTo item name v)
    (hop : r.conditionOperator.isLike = false) :
    (r.normalize? ctx = none ∧ ∃ item ∈ val.items, ctx.resolveItem item (some r.conditionOperator) = .any) ∨
    ∃ n, r.normalize? ctx = some n ∧
      ((n.verdict? = some (true, .one (.text disabledSentinel)) ∧
          ∃ item ∈ val.items, ctx.resolveItem item (some r.conditionOperator) = .disabled) ∨
        ∃ v, n.verdict? = some (false, v) ∧
          v.toList = (val.items.flatMap fun item => (ctx.resolveItem item (some r.conditionOperator)).values) ∧
          ∀ s ∈ v.toList, s.isSentinel = false) := by
  have hverdict := map_verdict?_normalize? ctx hkey
  rw [hval] at hverdict
  rcases ctx.operand_cases r.conditionOperator val with
    ⟨hany, hitem⟩ | ⟨hdisabled, hitem⟩ | ⟨v, hvalue, hvalues⟩
  · rw [hany] at hverdict
    exact .inl ⟨Option.map_eq_none_iff.mp hverdict, hitem⟩
  · rw [hdisabled] at hverdict
    obtain ⟨n, hn, hforbidden⟩ := Option.map_eq_some_iff.mp hverdict
    exact .inr ⟨n, hn, .inl ⟨hforbidden, hitem⟩⟩
  · rw [hvalue] at hverdict
    obtain ⟨n, hn, hallowed⟩ := Option.map_eq_some_iff.mp hverdict
    refine .inr ⟨n, hn, .inr ⟨v, hallowed, hvalues, fun s hs => ?_⟩⟩
    rw [hvalues] at hs
    obtain ⟨item, hitem, hs⟩ := List.mem_flatMap.mp hs
    obtain ⟨name, w, hrefers⟩ := hrefers item hitem
    exact VarContext.isSentinel_of_mem_resolveItem hrefers hop hs

/-- A list of two choices, one of them of all options, compares with the real values of both. -/
theorem Row.sentinels_stay_out_list :
    let env : Variable := ⟨"env", some "custom",
      some ⟨.many [.text anySentinel, .text "prod"], .many [.text "Any", .text "Production"]⟩, [], none, none⟩
    let host : Variable := ⟨"host", some "query", some ⟨.one (.text allSentinel), .one (.text "All")⟩,
      [⟨.text allSentinel, .text "All"⟩, ⟨.text disabledSentinel, .text "Off"⟩, ⟨.text "h1", .text "Host 1"⟩],
      none, none⟩
    let ctx : Context := { declared := [env, host], bindings := [] }
    let val : RowValue := .list [.literal (.text "$env"), .literal (.text "$host")]
    let r : Row := { Row.tag "pod" with op := "IN", val := some val }
    r.hasKey = true ∧ r.val = some val ∧ (∀ item ∈ val.items, ∃ name v, ctx.RefersTo item name v) ∧
      r.conditionOperator.isLike = false ∧
      ∃ n v, r.normalize? ctx = some n ∧ n.verdict? = some (false, v) ∧ v.toList = [.text "prod", .text "h1"] ∧
        ∀ s ∈ v.toList, s.isSentinel = false := by
  intro env host ctx val r
  have hrefers : ∀ item ∈ val.items, ∃ name v, ctx.RefersTo item name v := by
    intro item hitem
    rcases List.mem_cons.mp hitem with rfl | hitem
    · exact ⟨"env", env, by decide, by decide, by decide⟩
    · cases List.mem_singleton.mp hitem
      exact ⟨"host", host, by decide, by decide, by decide⟩
  refine ⟨by decide, rfl, hrefers, by decide, ?_⟩
  rcases Row.sentinels_stay_out r ctx val (by decide) rfl hrefers (by decide) with
    ⟨-, hany⟩ | ⟨n, hn, ⟨-, hdisabled⟩ | ⟨v, hallowed, hvalues, hfree⟩⟩
  · exact absurd hany (by decide)
  · exact absurd hdisabled (by decide)
  · exact ⟨n, v, hn, hallowed, hvalues.trans (by decide), hfree⟩

end PanelQuery
