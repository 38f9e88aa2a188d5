import PanelQuery.Proofs.Payload

/-!
# Chains of functions

The expression of a row grows from the inside out: its functions are called one after the other, each on the expression
before it (`Expr.Nests`), by their names or by the signs of arithmetic (`SubFunction.callName_eq`), and the row's name
comes last. A function before the row's own (`preFunc`) is read as the innermost one if the row has a function of its
own (`Row.compose_folds_chain`). Without one it has no part in the expression (`Row.preFunc_applied_iff`).
-/

namespace PanelQuery

/-! ## Names of functions -/

/-- The signs of arithmetic, by the words for them. -/
def arithmeticSigns : List (String × String) := [("ADD", "+"), ("SUBTRACT", "-"), ("MULTIPLY", "*"), ("DIVIDE", "/")]

namespace SubFunction

variable {f : SubFunction}

def IsArithmetic (f : SubFunction) : Prop := String.ofList (f.func.toList.map Char.toLower) = "math"

instance : Decidable f.IsArithmetic := inferInstanceAs (Decidable (_ = _))

/-- The sign that the operator of a function stands for. An operator that is no word for one is a sign itself. -/
def sign? (f : SubFunction) : Option String :=
  ((f.op.map Text.trim).bind nonEmpty?).map fun op => (arithmeticSigns.lookup op).getD op

/-- Arithmetic is called by its sign, and every other function by its name. -/
theorem callName_eq : f.callName = if f.IsArithmetic then f.sign?.getD f.func else f.func := by
  unfold callName
  by_cases hmath : f.IsArithmetic
  · have hname : (String.ofList (f.func.toList.map Char.toLower) != "math") = false := bne_eq_false_iff_eq.mpr hmath
    rw [if_pos hmath, hname, if_neg Bool.false_ne_true, sign?]
    split
    · next h => rw [h]; rfl
    · next h => rw [h]; rfl
    · next h => rw [h]; rfl
    · next h => rw [h]; rfl
    · next op hadd hsubtract hmultiply hdivide h =>
      have hlookup : arithmeticSigns.lookup op = none :=
        List.lookup_eq_none_iff.mpr (by simpa [arithmeticSigns] using ⟨hadd, hsubtract, hmultiply, hdivide⟩)
      by_cases hempty : op = "" <;> simp [h, nonEmpty?, hlookup, hempty]
    · next h => rw [h]; rfl
  · rw [if_neg hmath]
    exact if_pos (bne_iff_ne.mpr hmath)

end SubFunction

/-! ## Nested calls -/

/-- The parameters that a column is given. Neither an empty list nor the empty text is any. -/
def Params.given (params : Params) : Option Params :=
  if params = .list [] ∨ params = .single (.text "") then none else some params

theorem Params.nonEmpty?_eq_given {params : Params} : params.nonEmpty? = params.given := by
  have hempty : params.isEmpty = true ↔ params = .list [] ∨ params = .single (.text "") := by
    cases params with
    | list items => simp [isEmpty]
    | single value => cases value <;> simp [isEmpty, Scalar.isEmpty]
  unfold nonEmpty? given
  simp only [hempty]

namespace Expr

/-- The functions of a chain are called in turn, each on the expression before it and with its own parameters. The items
of a list are parameters of their own only in the innermost call. -/
inductive Nests (base : Expr) : List SubFunction → Expr → Prop where
  | base : Nests base [] base
  | bare {chain : List SubFunction} {e : Expr} {f : SubFunction} (inner : Nests base chain e) (hf : f.params = none) :
    Nests base (chain ++ [f]) (.call f.callName e [])
  | single {chain : List SubFunction} {e : Expr} {f : SubFunction} {value : Scalar} (inner : Nests base chain e)
    (hf : f.params = some (.single value)) : Nests base (chain ++ [f]) (.call f.callName e [.value value])
  | spread {f : SubFunction} {items : List Scalar} (hf : f.params = some (.list items)) :
    Nests base [f] (.call f.callName base (items.map .value))
  | list {chain : List SubFunction} {e : Expr} {f : SubFunction} {items : List Scalar} (inner : Nests base chain e)
    (hchain : chain ≠ []) (hf : f.params = some (.list items)) :
    Nests base (chain ++ [f]) (.call f.callName e [.list items])

section Nested

variable {base e : Expr} {chain rest : List SubFunction} {name : String}

theorem Nests.eq_base (h : Nests base chain e) (hchain : chain = []) : e = base := by
  cases h with
  | base => rfl
  | spread hf => cases hchain
  | bare | single | list => exact absurd hchain (List.append_ne_nil_of_right_ne_nil _ (List.cons_ne_nil _ _))

/-- One more function is called with its arguments. -/
theorem Nests.call (h : Nests base chain e) (f : SubFunction) :
    Nests base (chain ++ [f]) (.call f.callName e (f.arguments chain.isEmpty)) := by
  unfold SubFunction.arguments
  split
  · next hf => exact .bare h hf
  · next value hf => exact .single h hf
  · next items hf =>
    by_cases hchain : chain = []
    · rw [h.eq_base hchain, hchain]
      exact .spread hf
    · rw [List.isEmpty_eq_false_iff.mpr hchain]
      exact .list h hchain hf

/-- Further functions are called on what is there. -/
theorem Nests.applyAll (h : Nests base chain e) (hchain : chain ≠ []) :
    Nests base (chain ++ rest) (applyAll e rest) := by
  induction rest generalizing chain e with
  | nil =>
    rw [List.append_nil]
    exact h
  | cons f rest ih =>
    have hcall := h.call f
    rw [List.isEmpty_eq_false_iff.mpr hchain] at hcall
    have hrest := ih hcall (List.append_ne_nil_of_right_ne_nil chain (List.cons_ne_nil f []))
    rwa [List.append_assoc] at hrest

theorem nests_applyChain : Nests base chain (base.applyChain chain) := by
  cases chain with
  | nil => exact .base
  | cons f rest => exact (Nests.base.call f).applyAll (List.cons_ne_nil f [])

/-- The functions that an expression applies, the innermost first. -/
def functions : Expr → List String
  | column func _ _ _ => (nonEmpty? func).toList
  | call func operand _ => operand.functions ++ [func]

theorem functions_applyAll : (applyAll e chain).functions = e.functions ++ chain.map SubFunction.callName := by
  unfold Expr.applyAll
  induction chain generalizing e with
  | nil => exact (List.append_nil _).symm
  | cons f rest ih => rw [List.foldl_cons, ih, functions, List.append_assoc, List.map_cons, List.singleton_append]

theorem functions_applyChain : (e.applyChain chain).functions = e.functions ++ chain.map SubFunction.callName := by
  cases chain with
  | nil => exact (List.append_nil _).symm
  | cons f rest =>
    rw [applyChain, functions_applyAll, functions, List.append_assoc, List.map_cons, List.singleton_append]

/-- Whether the first function that an expression applies is applied to the column `key`, and is `func`. -/
def AppliesFirst (e : Expr) (func key : String) : Prop := e.functions.head? = some func ∧ e.columnKey = key

instance {func key : String} : Decidable (e.AppliesFirst func key) := inferInstanceAs (Decidable (_ ∧ _))

/-- The expression under a name. A column bears the name itself. -/
def labelled (e : Expr) (name : String) : Expr :=
  match e with
  | column func key params _ => column func key params (if name = "" then none else some name)
  | call func operand args =>
    if name = "" then call func operand args else call "as" (call func operand args) [.value (.text name)]

theorem labelled_call {func : String} {operand : Expr} {args : List Argument} :
    (call func operand args).labelled name = (call func operand args).named name := by
  unfold labelled named
  simp only [String.isEmpty_iff]

theorem labelled_applyAll {func : String} {args : List Argument} :
    (applyAll (.call func e args) chain).labelled name = (applyAll (.call func e args) chain).named name := by
  unfold Expr.applyAll
  induction chain generalizing e func args with
  | nil => exact labelled_call
  | cons f rest ih => exact ih

theorem calls_labelled : (e.labelled name).calls =
    e.calls ++ if e.calls = [] ∨ name = "" then [] else [("as", [.value (.text name)])] := by
  cases e with
  | column => rfl
  | call func operand args => by_cases hname : name = "" <;> simp [labelled, hname]

/-- A name is not what an expression applies first. -/
theorem head?_functions_labelled : (e.labelled name).functions.head? = e.functions.head? := by
  cases e with
  | column => rfl
  | call func operand args => by_cases hname : name = "" <;> simp [labelled, functions, hname]

end Nested

end Expr

/-! ## Rows -/

namespace Row

variable {r : Row} {name : String}

theorem composeAs_eq_labelled : r.composeAs name = (r.composeAs "").labelled name := by
  rw [composeAs_empty]
  unfold composeAs
  cases r.chain with
  | nil => simp [Expr.labelled, Expr.applyChain, nonEmpty?]
  | cons f rest => exact Expr.labelled_applyAll.symm

theorem calls_composeAs : (r.composeAs name).calls =
    chainCalls r.chain ++ if r.chain = [] ∨ name = "" then [] else [("as", [.value (.text name)])] := by
  have hcalls : chainCalls r.chain = [] ↔ r.chain = [] := by cases r.chain <;> simp [chainCalls]
  rw [composeAs_eq_labelled, Expr.calls_labelled, composeAs_empty, Expr.calls_applyChain, Expr.calls, List.nil_append]
  simp only [hcalls]

/-- Whether a function is applied before the row's own. -/
def IsPreceded (r : Row) : Prop := r.preFunc ≠ "" ∧ r.func ≠ ""

instance : Decidable r.IsPreceded := inferInstanceAs (Decidable (_ ∧ _))

/-- The row with the function before its own in the place of its own, which is the first of the further ones. -/
def shifted (r : Row) : Row :=
  { r with
    func := r.preFunc
    params := .empty
    preFunc := ""
    subFuncs := { func := r.func, op := none, params := some r.params } :: r.subFuncs }

/-- The row with its functions in the order in which they are applied. -/
def inOrder (r : Row) : Row := if r.IsPreceded then r.shifted else r

theorem not_isPreceded_iff : ¬r.IsPreceded ↔ (r.preFunc.isEmpty || r.func.isEmpty) = true := by
  rw [Bool.or_eq_true, String.isEmpty_iff, String.isEmpty_iff, IsPreceded, not_and_or, not_not, not_not]

theorem chain_of_not_isPreceded (h : ¬r.IsPreceded) : r.chain = r.subFuncs := if_pos (not_isPreceded_iff.mp h)

theorem base_of_not_isPreceded (h : ¬r.IsPreceded) : r.base = (r.func, r.params.given) := by
  rw [← Params.nonEmpty?_eq_given]
  exact if_pos (not_isPreceded_iff.mp h)

theorem chain_of_isPreceded (h : r.IsPreceded) : r.chain = r.shifted.subFuncs :=
  if_neg fun hnot => not_isPreceded_iff.mpr hnot h

theorem base_of_isPreceded (h : r.IsPreceded) : r.base = (r.preFunc, none) :=
  if_neg fun hnot => not_isPreceded_iff.mpr hnot h

theorem not_isPreceded_shifted : ¬r.shifted.IsPreceded := fun h => h.1 rfl

theorem not_isPreceded_inOrder : ¬r.inOrder.IsPreceded := by
  unfold inOrder
  split
  · exact not_isPreceded_shifted
  · assumption

/-- The function before the row's own takes its place. -/
theorem composeAs_shifted (h : r.IsPreceded) : r.shifted.composeAs name = r.composeAs name := by
  unfold composeAs
  rw [base_of_isPreceded h, chain_of_isPreceded h, base_of_not_isPreceded not_isPreceded_shifted,
    chain_of_not_isPreceded not_isPreceded_shifted]
  rfl

theorem composeAs_inOrder : r.inOrder.composeAs name = r.composeAs name := by
  unfold inOrder
  split
  · next h => exact composeAs_shifted h
  · rfl

theorem realKey_inOrder : r.inOrder.realKey = r.realKey := by
  unfold inOrder
  split <;> rfl

/-- A row that no function precedes calls its further functions on its own. -/
theorem nests_composeAs (h : ¬r.IsPreceded) :
    Expr.Nests (.column r.func r.realKey r.params.given none) r.subFuncs (r.composeAs "") := by
  rw [composeAs_empty, base_of_not_isPreceded h, chain_of_not_isPreceded h]
  exact Expr.nests_applyChain

theorem map_fst_chainCalls {chain : List SubFunction} :
    (chainCalls chain).map Prod.fst = chain.map SubFunction.callName := by
  cases chain <;> simp [chainCalls]

theorem map_fst_calls_composeAs : (r.composeAs "").calls.map Prod.fst = r.chain.map SubFunction.callName := by
  rw [composeAs_empty, Expr.calls_applyChain, Expr.calls, List.nil_append, map_fst_chainCalls]

/-- With the row's own function called like the further ones, there is one call more. -/
theorem compose_shifted_ne (h : ¬r.IsPreceded) : r.shifted.compose ≠ r.compose := by
  intro heq
  have hlength := congrArg (fun e => (e.calls.map Prod.fst).length) heq
  simp only [compose, calls_composeAs, chain_of_not_isPreceded h, chain_of_not_isPreceded not_isPreceded_shifted,
    List.map_append, map_fst_chainCalls, List.length_append, List.length_map] at hlength
  by_cases hname : r.aliasName = "" <;> by_cases hchain : r.subFuncs = [] <;>
    simp [shifted, hname, hchain] at hlength

/-- **The expression of a row is the left fold of its chain.** Under its name there is one call for each function of the
chain, nested from the inside out around the column, and arithmetic is called by its sign. A row with a function before
its own is read as the row with the two in the order in which they are applied, and no other row is. -/
theorem compose_folds_chain (r : Row) :
    (∃ body : Expr,
      Expr.Nests (.column r.inOrder.func r.realKey r.inOrder.params.given none) r.inOrder.subFuncs body ∧
      body.calls.map Prod.fst =
        (r.inOrder.subFuncs.map fun f => if f.IsArithmetic then f.sign?.getD f.func else f.func) ∧
      r.compose = body.labelled r.aliasName) ∧
    (r.shifted.compose = r.compose ↔ r.IsPreceded) := by
  have hinOrder := @not_isPreceded_inOrder r
  refine ⟨⟨r.composeAs "", ?_, ?_, composeAs_eq_labelled⟩, ?_, composeAs_shifted⟩
  · have hnests := nests_composeAs hinOrder
    rwa [realKey_inOrder, composeAs_inOrder] at hnests
  · rw [← composeAs_inOrder, map_fst_calls_composeAs, chain_of_not_isPreceded hinOrder]
    exact congrArg (List.map · _) (funext fun f => SubFunction.callName_eq)
  · exact fun heq => by_contra fun h => compose_shifted_ne h heq

/-! ## Functions before the row's own -/

theorem head?_functions_composeAs :
    (r.composeAs name).functions.head? = (nonEmpty? r.base.1).or (r.chain.head?.map SubFunction.callName) := by
  rw [composeAs_eq_labelled, Expr.head?_functions_labelled, composeAs_empty, Expr.functions_applyChain, Expr.functions,
    List.head?_append, List.head?_map, Option.head?_toList]

/-- Whether a row calls the function before its own as the first of its further functions. -/
def RepeatsPreFunc (r : Row) : Prop := r.subFuncs.head?.map SubFunction.callName = some r.preFunc

instance : Decidable r.RepeatsPreFunc := inferInstanceAs (Decidable (_ = _))

/-- A function before a row's own is applied first if there is a function of its own. -/
theorem appliesFirst_composeAs_iff (hpre : r.preFunc ≠ "") (name : String) :
    (r.composeAs name).AppliesFirst r.preFunc r.realKey ↔ r.func ≠ "" ∨ r.RepeatsPreFunc := by
  rw [Expr.AppliesFirst, columnKey_composeAs, and_iff_left rfl, head?_functions_composeAs]
  by_cases hfunc : r.func = ""
  · have hnot : ¬r.IsPreceded := fun h => h.2 hfunc
    rw [base_of_not_isPreceded hnot, chain_of_not_isPreceded hnot]
    simp [nonEmpty?, hfunc, RepeatsPreFunc]
  · rw [base_of_isPreceded ⟨hpre, hfunc⟩]
    simp [nonEmpty?, hpre, hfunc]

/-- Without a function of the row's own, one before it has no part in the expression. -/
theorem composeAs_of_func_eq_empty (h : r.func = "") :
    ({ r with preFunc := "" } : Row).composeAs name = r.composeAs name := by
  unfold composeAs base chain
  simp [h]
  rfl

end Row

/-- Whether an entry first applies `func`, to the column `key`. -/
def Selection.AppliesFirst (s : Selection) (func key : String) : Prop :=
  ∃ e, s = .expr e ∧ e.AppliesFirst func key

namespace Row

variable {r : Row}

theorem appliesFirst_selection_iff (hpre : r.preFunc ≠ "") :
    r.selection.AppliesFirst r.preFunc r.realKey ↔ r.func ≠ "" ∨ r.RepeatsPreFunc := by
  have hselection : r.selection = .expr r.compose := if_neg (by simp [isBare, hpre])
  rw [hselection, ← appliesFirst_composeAs_iff hpre r.aliasName]
  simp [Selection.AppliesFirst, compose]

theorem ordering_of_not_isBucket (h : r.isBucket = false) : r.ordering = ⟨r.composeAs "", some r.isDescending⟩ := by
  rw [isBucket, ← isSome_dropStart?, Option.isSome_eq_false_iff, Option.isNone_iff_eq_none] at h
  rw [ordering, h]

/-- **Which functions before a row's own are applied.** What a query selects or orders by for a keyed metric row first
applies the function before the row's own exactly if it has one of its own, or calls that function anyway. A row without
a function of its own is read as if there were none before it. -/
theorem preFunc_applied_iff (r : Row) (f : Form) (ctx : Context) (hkey : r.hasKey = true) (hmetric : r.kind = .metric)
    (hpre : r.preFunc ≠ "") :
    (r ∈ f.select → r.selection ∈ (f.compile ctx).metrics) ∧
    (r.selection.AppliesFirst r.preFunc r.realKey ↔ r.func ≠ "" ∨ r.RepeatsPreFunc) ∧
    (r ∈ f.orderBy → r.ordering ∈ (f.compile ctx).orderBy) ∧
    (r.isBucket = false →
      (r.ordering.expr.AppliesFirst r.preFunc r.realKey ↔ r.func ≠ "" ∨ r.RepeatsPreFunc)) ∧
    (r.func = "" → ∀ name, ({ r with preFunc := "" } : Row).composeAs name = r.composeAs name) := by
  refine ⟨fun hselect => ?_, appliesFirst_selection_iff hpre, fun horder => ?_, fun hbucket => ?_,
    fun hfunc _ => composeAs_of_func_eq_empty hfunc⟩
  · exact List.mem_map_of_mem (List.mem_filter.mpr ⟨hselect, by simp [hkey, hmetric]⟩)
  · exact List.mem_map_of_mem (List.mem_filter.mpr ⟨horder, hkey⟩)
  · rw [ordering_of_not_isBucket hbucket]
    exact appliesFirst_composeAs_iff hpre ""

/-- A derivative of a metric that is not aggregated is lost, selected or ordered by. -/
theorem preFunc_applied_not :
    let r : Row := { kind := .metric, key := "byte", preFunc := "Derivative" }
    let f : Form := { Form.new .trafficQuery with select := [r], orderBy := [r] }
    let ctx : Context := { declared := [], bindings := [] }
    r.hasKey = true ∧ r.kind = .metric ∧ r.preFunc ≠ "" ∧
      r.selection ∈ (f.compile ctx).metrics ∧ ¬r.selection.AppliesFirst "Derivative" "byte" ∧
      r.ordering ∈ (f.compile ctx).orderBy ∧ ¬r.ordering.expr.AppliesFirst "Derivative" "byte" := by
  intro r f ctx
  have hpre : r.preFunc ≠ "" := by decide
  have hnot : ¬(r.func ≠ "" ∨ r.RepeatsPreFunc) := by decide
  obtain ⟨hmetrics, hselection, horders, hordering, -⟩ := preFunc_applied_iff r f ctx (by decide) rfl hpre
  exact ⟨by decide, rfl, hpre, hmetrics List.mem_cons_self, mt hselection.mp hnot, horders List.mem_cons_self,
    mt (hordering (by decide)).mp hnot⟩

end Row
end PanelQuery
