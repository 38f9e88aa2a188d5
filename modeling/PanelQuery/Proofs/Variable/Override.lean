import PanelQuery.Variable.Resolve

/-!
# Scoped values and the choices that they override

A scoped value of a request goes before the choice of its variable. So values could be resolved just as well with that
choice made by the variable itself and nothing scoped to it (`VarContext.settle`). They stand for the same then
(`VarContext.Separates.resolveItem_settle`), unless a scoped value is kept under the text of a reference, where it is
found for another variable than the one of its name (`VarContext.Separates`).
-/

namespace PanelQuery

/-! ## Choices -/

/-- The choice that a scoped value makes. -/
def Binding.choice (b : Binding) : Current := ⟨b.value, b.text.getD b.value⟩

def Variable.choosing (v : Variable) (c : Current) : Variable := { v with current := some c }

/-- Whether two choices of a variable stand for the same, as values and as texts. -/
def Variable.Alike (v : Variable) (c d : Current) : Prop :=
  ∀ useText, VarContext.pick v c useText = VarContext.pick v d useText

namespace VarContext

/-- The context in which all variables of that name make a choice of their own, and nothing is scoped to it. -/
def settle (ctx : VarContext) (name : String) (c : Current) : VarContext where
  declared := ctx.declared.map fun v => if v.name = name then v.choosing c else v
  bindings := ctx.bindings.filter fun entry => entry.1 ≠ name

/-- The variable of that name, if it has a kind. Only such variables are resolved in values. -/
def typed? (ctx : VarContext) (name : String) : Option Variable :=
  (ctx.declared? name).filter fun v => v.kind.isSome

section Lookup

variable {ctx : VarContext} {x name : String} {c : Current} {v : Variable}

theorem declared?_settle : (ctx.settle x c).declared? name =
    (ctx.declared? name).map fun v => if v.name = x then v.choosing c else v := by
  have hname : ((fun v : Variable => v.name == name) ∘ fun v => if v.name = x then v.choosing c else v) =
      fun v => v.name == name := by
    funext v
    rw [Function.comp_apply]
    split
    · rfl
    · rfl
  rw [declared?, declared?, settle, List.find?_map, hname]

theorem name_of_declared? (h : ctx.declared? name = some v) : v.name = name := by simpa using List.find?_some h

theorem declared?_of_typed? (h : ctx.typed? name = some v) : ctx.declared? name = some v :=
  (Option.filter_eq_some_iff.mp h).1

theorem typed?_settle_self (h : ctx.typed? x = some v) : (ctx.settle x c).typed? x = some (v.choosing c) := by
  obtain ⟨hdeclared, hkind⟩ := Option.filter_eq_some_iff.mp h
  rw [typed?, declared?_settle, hdeclared, Option.map_some, if_pos (name_of_declared? hdeclared)]
  exact Option.filter_eq_some_iff.mpr ⟨rfl, hkind⟩

theorem typed?_settle_of_ne (h : name ≠ x) : (ctx.settle x c).typed? name = ctx.typed? name := by
  rw [typed?, typed?, declared?_settle]
  cases hdeclared : ctx.declared? name with
  | none => rfl
  | some v => rw [Option.map_some, if_neg (name_of_declared? hdeclared ▸ h)]

theorem binding?_settle_self : (ctx.settle x c).binding? x = none := by
  rw [binding?, settle, List.lookup_eq_none_iff]
  intro entry hentry
  have hne : entry.1 ≠ x := of_decide_eq_true (List.mem_filter.mp hentry).2
  simpa using Ne.symm hne

theorem binding?_settle_of_ne (h : name ≠ x) : (ctx.settle x c).binding? name = ctx.binding? name := by
  rw [binding?, binding?, settle]
  induction ctx.bindings with
  | nil => rfl
  | cons entry rest ih =>
    obtain ⟨key, b⟩ := entry
    by_cases hkey : key = x
    · have hname : (name == key) = false := by simpa [hkey] using h
      rw [List.filter_cons_of_neg (by simpa using hkey), ih, List.lookup_cons, hname]
    · rw [List.filter_cons_of_pos (by simpa using hkey), List.lookup_cons, List.lookup_cons, ih]

end Lookup

/-- Whether no reference finds another scoped value than that of its own variable `x`, or one of another variable, by
its text; or whether it makes no difference. -/
structure Separates (ctx : VarContext) (x : String) (v : Variable) (b : Binding) : Prop where
  /-- A scoped value under the text of a reference to `x` would stand in for that of `x`. -/
  others : ∀ text other, reference? text = some x → ctx.binding? text = some other → v.Alike other.choice b.choice
  /-- If `x` is the text of a reference itself, its scoped value stands in for that of another variable. -/
  own : ∀ name w, reference? x = some name → ctx.binding? name = none → ctx.typed? name = some w →
    w.Alike b.choice (w.current.getD .empty)

/-- Scoped values are found by name if none of their names is the text of a reference. -/
theorem separates_of_names {ctx : VarContext} {x : String} {v : Variable} {b : Binding} (hb : ctx.binding? x = some b)
    (h : ∀ entry ∈ ctx.bindings, reference? entry.1 = none) : ctx.Separates x v b := by
  have hnone : ∀ {name : String} {bound : Binding}, ctx.binding? name = some bound → reference? name = none := by
    intro name bound hbound
    obtain ⟨before, after, hentries, -⟩ := List.lookup_eq_some_iff.mp hbound
    exact h (name, bound) (hentries ▸ List.mem_append_right _ List.mem_cons_self)
  constructor
  · intro text other href hother
    cases href.symm.trans (hnone hother)
  · intro name w href
    cases href.symm.trans (hnone hb)

end VarContext

/-! ## Values -/

/-- A name is shorter than the text that refers to it. -/
theorem length_lt_of_reference? {text name : String} (h : reference? text = some name) :
    name.toList.length < text.toList.length := by
  unfold reference? at h
  obtain ⟨cs, hcs, hname⟩ := Option.bind_eq_some_iff.mp h
  obtain ⟨-, rfl⟩ : cs.isEmpty = false ∧ String.ofList cs = name := by simpa using hname
  rw [String.toList_ofList]
  split at hcs
  · next inner htext =>
    split at hcs
    · next reversed hinner =>
      have hlength : inner.length = reversed.length + 1 := by
        rw [← List.length_reverse, hinner, List.length_cons]
      have hbefore : (beforeColon reversed.reverse).length ≤ reversed.reverse.length :=
        (List.takeWhile_sublist _).length_le
      cases hcs
      rw [htext, List.length_cons, List.length_cons, hlength]
      rw [List.length_reverse] at hbefore
      omega
    · cases hcs
  · next hnot htext =>
    cases hcs
    rw [htext, List.length_cons]
    exact Nat.lt_succ_self _
  · cases hcs

theorem ne_of_reference? {text name : String} (h : reference? text = some name) : text ≠ name := by
  rintro rfl
  exact Nat.lt_irrefl _ (length_lt_of_reference? h)

/-- A value item refers to a variable by its text, or is a choice that names it. -/
theorem ValueItem.text_of_variableName? {item : ValueItem} {name : String} (h : item.variableName? = some name) :
    ∃ text, item.value = .text text ∧ (reference? text = some name ∨ text = name) := by
  unfold variableName? at h
  obtain ⟨text, htext, hname⟩ := Option.bind_eq_some_iff.mp h
  refine ⟨text, ?_, ?_⟩
  · cases hvalue : item.value <;> simp_all [Scalar.text?]
  · split at hname
    · next found hfound => exact .inl (hfound.trans hname)
    · split at hname
      · exact .inr (Option.some.inj hname)
      · cases hname
    · cases hname

theorem ValueItem.variableName?_literal {text name : String} (h : reference? text = some name) :
    (literal (.text text)).variableName? = some name := by
  simp [variableName?, value, Scalar.text?, h]

namespace VarContext

section Values

variable {ctx : VarContext} {x name text : String} {v w : Variable} {b : Binding} {item : ValueItem}
  {op : Option Operator}
  {useText : Bool}

/-- What a reference stands for. -/
theorem resolveItem_eq (hname : item.variableName? = some name) : ctx.resolveItem item op =
    ((ctx.typed? name).map fun w => pick w (ctx.current w name item.value) (op.any Operator.isLike)).getD
      (.one item.value) := by
  rw [resolveItem, hname, Option.bind_some, typed?, resolve?]
  cases ctx.declared? name with
  | none => rfl
  | some w => cases hkind : w.kind <;> simp [hkind, Option.filter]

/-- A scoped value by name goes first. -/
theorem current_of_binding? {raw : Scalar} (h : ctx.binding? name = some b) : ctx.current w name raw = b.choice := by
  rw [current, h]
  rfl

/-- Without one by name, a scoped value by the text of the reference goes before the variable's own choice. -/
theorem current_of_binding?_eq_none (h : ctx.binding? name = none) : ctx.current w name (.text text) =
    ((ctx.binding? text).map Binding.choice).getD (w.current.getD .empty) := by
  rw [current, h, Option.none_or]
  simp only [Scalar.text?, Option.bind_some]
  cases ctx.binding? text <;> rfl

/-- A variable picks the same whatever its own choice is. -/
theorem pick_choosing {c d : Current} : pick (v.choosing c) d useText = pick v d useText := rfl

/-- The variable itself picks what its scoped value made it pick. -/
theorem Separates.pick_self (h : ctx.Separates x v b) (href : reference? text = some x ∨ text = x) :
    pick v ((ctx.settle x b.choice).current (v.choosing b.choice) x (.text text)) useText =
      pick v b.choice useText := by
  rw [current_of_binding?_eq_none binding?_settle_self]
  rcases href with href | rfl
  · rw [binding?_settle_of_ne (ne_of_reference? href)]
    cases hother : ctx.binding? text with
    | none => rfl
    | some other => exact h.others text other href hother useText
  · rw [binding?_settle_self]
    rfl

/-- Other variables pick what they picked. -/
theorem Separates.pick_of_ne (h : ctx.Separates x v b) (hb : ctx.binding? x = some b) (hne : name ≠ x)
    (hw : ctx.typed? name = some w) (href : reference? text = some name ∨ text = name) :
    pick w ((ctx.settle x b.choice).current w name (.text text)) useText =
      pick w (ctx.current w name (.text text)) useText := by
  have hsettle : (ctx.settle x b.choice).binding? name = ctx.binding? name := binding?_settle_of_ne hne
  cases hbound : ctx.binding? name with
  | some bound => rw [current_of_binding? hbound, current_of_binding? (hsettle.trans hbound)]
  | none =>
    rw [current_of_binding?_eq_none hbound, current_of_binding?_eq_none (hsettle.trans hbound)]
    by_cases htext : text = x
    · subst htext
      rw [binding?_settle_self, hb]
      exact (h.own name w (href.resolve_right (Ne.symm hne)) hbound hw useText).symm
    · rw [binding?_settle_of_ne htext]

/-- Values stand for the same if the scoped value becomes the choice of its variable. -/
theorem Separates.resolveItem_settle (h : ctx.Separates x v b) (hb : ctx.binding? x = some b)
    (hv : ctx.typed? x = some v) : (ctx.settle x b.choice).resolveItem item op = ctx.resolveItem item op := by
  cases hname : item.variableName? with
  | none => simp [resolveItem, hname]
  | some name =>
    obtain ⟨text, htext, href⟩ := ValueItem.text_of_variableName? hname
    rw [resolveItem_eq hname, resolveItem_eq hname, htext]
    by_cases hx : name = x
    · subst hx
      rw [typed?_settle_self hv, hv, Option.map_some, Option.map_some, pick_choosing, h.pick_self href,
        current_of_binding? hb]
    · rw [typed?_settle_of_ne hx]
      cases hw : ctx.typed? name with
      | none => rfl
      | some w => rw [Option.map_some, Option.map_some, h.pick_of_ne hb hx hw href]

/-- References of all kinds stand for the same only if no scoped value is found by the text of a reference, or it makes
no difference. -/
theorem separates_of_forall (hb : ctx.binding? x = some b) (hv : ctx.typed? x = some v)
    (h : ∀ item op, op = .like ∨ op = .equal →
      (ctx.settle x b.choice).resolveItem item (some op) = ctx.resolveItem item (some op)) : ctx.Separates x v b := by
  -- an operator that asks for texts, or for values
  have hop : ∀ useText, ∃ op : Operator, (op = .like ∨ op = .equal) ∧ op.isLike = useText := fun
    | true => ⟨.like, .inl rfl, rfl⟩
    | false => ⟨.equal, .inr rfl, rfl⟩
  constructor
  · intro text other href hother useText
    obtain ⟨op, hop, rfl⟩ := hop useText
    have hitem := h (.literal (.text text)) op hop
    have hname := ValueItem.variableName?_literal href
    have hbound := (binding?_settle_of_ne (c := b.choice) (ne_of_reference? href)).trans hother
    rw [resolveItem_eq hname, resolveItem_eq hname, typed?_settle_self hv, hv, Option.map_some, Option.map_some,
      pick_choosing, current_of_binding? hb] at hitem
    rw [ValueItem.value, current_of_binding?_eq_none binding?_settle_self, hbound] at hitem
    exact hitem
  · intro name w href hnone hw useText
    obtain ⟨op, hop, rfl⟩ := hop useText
    have hitem := h (.literal (.text x)) op hop
    have hname := ValueItem.variableName?_literal href
    have hne : name ≠ x := (ne_of_reference? href).symm
    have hsettle := (binding?_settle_of_ne (c := b.choice) hne).trans hnone
    rw [resolveItem_eq hname, resolveItem_eq hname, typed?_settle_of_ne hne, hw, Option.map_some, Option.map_some,
      ValueItem.value, current_of_binding?_eq_none hnone, current_of_binding?_eq_none hsettle, binding?_settle_self,
      hb] at hitem
    exact hitem.symm

end Values

end VarContext

end PanelQuery
