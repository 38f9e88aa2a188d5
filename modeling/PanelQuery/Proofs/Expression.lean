import PanelQuery.Expression

/-!
# Reading expressions

An expression is read from the inside out: the column that it starts from (`Expr.origin`), and the calls around it in
the order in which they are applied (`Expr.calls`). Nothing else is in it (`Expr.eq_iff`), so the expression of a row
tells what the row applies to its key (`Row.composeAs_eq_iff`).
-/

namespace PanelQuery

/-- A call by its name, with the parameters after the expression that it is applied to. -/
abbrev AppliedCall := String × List Argument

namespace Expr

/-- The column that an expression starts from. -/
def origin : Expr → Expr
  | column func key params aliasName => column func key params aliasName
  | call _ operand _ => operand.origin

/-- The calls of an expression, the innermost first. -/
def calls : Expr → List AppliedCall
  | column _ _ _ _ => []
  | call func operand args => operand.calls ++ [(func, args)]

@[simp] theorem origin_call {func : String} {operand : Expr} {args : List Argument} :
    (call func operand args).origin = operand.origin := rfl

@[simp] theorem calls_call {func : String} {operand : Expr} {args : List Argument} :
    (call func operand args).calls = operand.calls ++ [(func, args)] := rfl

/-- An expression is its column with its calls applied in turn. -/
theorem foldl_calls : ∀ e : Expr, e.calls.foldl (fun e applied => call applied.1 e applied.2) e.origin = e
  | column _ _ _ _ => rfl
  | call func operand args => by
    rw [calls_call, origin_call, List.foldl_append, foldl_calls operand]
    rfl

/-- Expressions are the same if they start from one column and apply the same calls to it. -/
theorem eq_iff {e e' : Expr} : e = e' ↔ e.origin = e'.origin ∧ e.calls = e'.calls := by
  constructor
  · rintro rfl
    exact ⟨rfl, rfl⟩
  · rintro ⟨horigin, hcalls⟩
    rw [← foldl_calls e, ← foldl_calls e', horigin, hcalls]

/-! ## Chains -/

variable {base : Expr} {chain : List SubFunction}

@[simp] theorem origin_applyAll : (applyAll base chain).origin = base.origin := by
  unfold applyAll
  induction chain generalizing base with
  | nil => rfl
  | cons f rest ih => rw [List.foldl_cons, ih, origin_call]

@[simp] theorem calls_applyAll :
    (applyAll base chain).calls = base.calls ++ chain.map fun f => (f.callName, f.arguments false) := by
  unfold applyAll
  induction chain generalizing base with
  | nil => simp
  | cons f rest ih => simp [ih]

end Expr

/-- The calls of a chain of functions; the first of them is the innermost. -/
def chainCalls : List SubFunction → List AppliedCall
  | [] => []
  | f :: rest => (f.callName, f.arguments true) :: rest.map fun f => (f.callName, f.arguments false)

namespace Expr

variable {base : Expr} {chain : List SubFunction}

@[simp] theorem origin_applyChain : (base.applyChain chain).origin = base.origin := by
  cases chain with
  | nil => rfl
  | cons f rest => rw [applyChain, origin_applyAll, origin_call]

@[simp] theorem calls_applyChain : (base.applyChain chain).calls = base.calls ++ chainCalls chain := by
  cases chain with
  | nil => exact (List.append_nil _).symm
  | cons f rest => simp [applyChain, chainCalls]

end Expr

namespace Row

variable {r s : Row}

/-- Without a name, the expression of a row applies its chain to its base column. -/
theorem composeAs_empty : r.composeAs "" = (Expr.column r.base.1 r.realKey r.base.2 none).applyChain r.chain := by
  unfold composeAs
  cases r.chain with
  | nil => rfl
  | cons f rest => rfl

/-- Whether two rows apply the same to their keys: the function and parameters of the base column, and the calls. -/
def AppliesAs (r s : Row) : Prop := r.base = s.base ∧ chainCalls r.chain = chainCalls s.chain

instance : Decidable (AppliesAs r s) := inferInstanceAs (Decidable (_ ∧ _))

/-- Expressions of rows are the same exactly if the rows apply the same to the same key. -/
theorem composeAs_eq_iff : r.composeAs "" = s.composeAs "" ↔ r.realKey = s.realKey ∧ r.AppliesAs s := by
  rw [composeAs_empty, composeAs_empty, Expr.eq_iff]
  simp only [Expr.origin_applyChain, Expr.calls_applyChain, Expr.origin, Expr.calls, List.nil_append,
    Expr.column.injEq, and_true, AppliesAs, Prod.ext_iff]
  constructor
  · rintro ⟨⟨hfunc, hkey, hparams⟩, hcalls⟩
    exact ⟨hkey, ⟨hfunc, hparams⟩, hcalls⟩
  · rintro ⟨hkey, ⟨hfunc, hparams⟩, hcalls⟩
    exact ⟨⟨hfunc, hkey, hparams⟩, hcalls⟩

end Row
end PanelQuery
