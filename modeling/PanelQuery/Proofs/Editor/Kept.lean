import Mathlib.Data.List.Forall2
import PanelQuery.Proofs.Editor.Settling

/-!
# What sanitizing keeps

A pass goes over each row on its own (`Form.rows_sanitize`), and what it may do to one is little: cut or pad parameters
(`Params.FitsTo`), clear a key with all that depends on it, and drop an alias (`Row.IsSanitized`). These rules leave no
choice (`Row.isSanitized_iff`), so a form is the sanitized one exactly if its rows follow them one by one and it differs
in nothing else (`Form.eq_sanitize_iff`).
-/

namespace PanelQuery

/-! ## Parameters -/

/-- Whether a list is another one cut or padded to a length: the same as far as both go, and empty items from there
on. -/
structure Resizes (n : Nat) (items fitted : List Scalar) : Prop where
  length : fitted.length = n
  shared : ∀ i, i < n → i < items.length → fitted[i]? = items[i]?
  padding : ∀ i, i < n → items.length ≤ i → fitted[i]? = some .empty

namespace Resizes

variable {n : Nat} {items fitted other : List Scalar}

/-- Cutting a list and filling it up resizes it. -/
theorem take_append_replicate :
    Resizes n items (items.take n ++ List.replicate (n - (items.take n).length) .empty) := by
  constructor
  · rw [List.length_append, List.length_replicate, List.length_take]
    omega
  · intro i hi hitems
    rw [List.getElem?_append_left (by rw [List.length_take]; omega), List.getElem?_take_of_lt hi]
  · intro i hi hitems
    have hlength : (items.take n).length = items.length := by
      rw [List.length_take]
      omega
    rw [List.getElem?_append_right (by omega), List.getElem?_replicate, if_pos (by omega)]

/-- There is one way to resize a list. -/
theorem unique (h : Resizes n items fitted) (hother : Resizes n items other) : fitted = other := by
  refine List.ext_getElem? fun i => ?_
  by_cases hi : i < n
  · by_cases hitems : i < items.length
    · rw [h.shared i hi hitems, hother.shared i hi hitems]
    · rw [h.padding i hi (Nat.le_of_not_lt hitems), hother.padding i hi (Nat.le_of_not_lt hitems)]
  · have hlength := h.length
    have hotherLength := hother.length
    rw [List.getElem?_eq_none (by omega), List.getElem?_eq_none (by omega)]

end Resizes

/-- Whether parameters are what becomes of others where a number of them is wanted: a list is resized. All other
parameters stay, and so do all where no number is known. -/
def Params.FitsTo : Option Nat → Params → Params → Prop
  | some n, .list items, fitted => ∃ resized, fitted = .list resized ∧ Resizes n items resized
  | _, params, fitted => fitted = params

/-- Parameters that fit a number are those that sanitizing makes of them. -/
theorem Params.fitsTo_iff {n : Option Nat} {params fitted : Params} :
    params.FitsTo n fitted ↔ fitted = params.fit n := by
  cases n with
  | none => rfl
  | some n =>
    cases params with
    | single item => rfl
    | list items =>
      constructor
      · rintro ⟨resized, rfl, hresized⟩
        exact congrArg _ (hresized.unique .take_append_replicate)
      · rintro rfl
        exact ⟨_, rfl, .take_append_replicate⟩

/-! ## Rows -/

namespace Row

variable {t : TableOptions} {c : Clause} {offered : FieldOptions} {r s : Row}

/-- Whether a row may stay on its key where some are offered: it has none, it was picked from a select row, the key is
offered, or it looks like a time bucket. -/
def MayStay (offered : FieldOptions) (r : Row) : Prop :=
  r.key = "" ∨ r.fromSelect ≠ none ∨ offered.allows r = true ∨ Text.startsWith r.key bucketKeyStart = true

/-- A key may stay exactly if it is exempt or offered. -/
theorem mayStay_iff : r.MayStay offered ↔ (r.isExempt || offered.allows r) = true := by
  unfold MayStay isExempt
  cases r.fromSelect <;> cases offered.allows r <;> simp

/-- Whether a row is what sanitizing makes of another one in a clause. -/
structure IsSanitized (t : TableOptions) (c : Clause) (offered : FieldOptions) (r s : Row) : Prop where
  /-- A row that may stay keeps everything but its parameters and its alias. -/
  kept : r.MayStay offered → s = { r with params := s.params, aliasName := s.aliasName }
  /-- Its parameters are as many as its function wants. -/
  fitted : r.MayStay offered → r.params.FitsTo (r.arity? t) s.params
  /-- Any other row keeps its kind, its order and its identity, and its alias. -/
  cleared : ¬r.MayStay offered → s = { kind := r.kind, sort := r.sort, uuid := r.uuid, aliasName := s.aliasName }
  /-- The alias goes if the row, such as it is now, selects a column that cannot be renamed. -/
  renamed : s.aliasName = if s.hasFixedName t c then "" else r.aliasName

/-- A cleared row has no function, so its parameters stay as they are. -/
theorem fit_clearKey : r.clearKey.fit t c =
    { kind := r.kind, sort := r.sort, uuid := r.uuid
      aliasName := if r.clearKey.hasFixedName t c then "" else r.aliasName } := by
  have harity : r.clearKey.arity? t = none := by simp [arity?, clearKey]
  rw [fit, harity]
  rfl

/-- A sanitized row is the row without a key that may not stay, fitted to its function. -/
theorem isSanitized_iff : r.IsSanitized t c offered s ↔ s = (r.keepOffered offered).fit t c := by
  by_cases hstay : r.MayStay offered
  · rw [keepOffered, if_pos (mayStay_iff.mp hstay)]
    constructor
    · intro h
      have hname : s.hasFixedName t c = r.hasFixedName t c := by
        rw [h.kept hstay]
        rfl
      have hparams := Params.fitsTo_iff.mp (h.fitted hstay)
      have halias := h.renamed
      rw [hname] at halias
      rw [h.kept hstay, hparams, halias]
      rfl
    · rintro rfl
      exact ⟨fun _ => rfl, fun _ => Params.fitsTo_iff.mpr rfl, absurd hstay, rfl⟩
  · rw [keepOffered, if_neg (mt mayStay_iff.mpr hstay), fit_clearKey]
    constructor
    · intro h
      have hname : s.hasFixedName t c = r.clearKey.hasFixedName t c := by
        rw [h.cleared hstay]
        rfl
      have halias := h.renamed
      rw [hname] at halias
      rw [h.cleared hstay, halias]
    · rintro rfl
      exact ⟨fun h => absurd h hstay, fun h => absurd h hstay, fun _ => rfl, rfl⟩

end Row

/-! ## Forms -/

namespace Form

variable {f g k : Form} {t : TableOptions}

/-- Whether two forms differ in nothing but their rows. -/
def SameButRows (f g : Form) : Prop :=
  g = { f with
    select := g.select, filter := g.filter, having := g.having, groupBy := g.groupBy, orderBy := g.orderBy }

/-- Forms that agree but for their rows, and on those, are the same. -/
theorem SameButRows.eq (hg : f.SameButRows g) (hk : f.SameButRows k) (hrows : ∀ c, g.rows c = k.rows c) : g = k := by
  have hselect : g.select = k.select := hrows .select
  have hfilter : g.filter = k.filter := hrows .filter
  have hhaving : g.having = k.having := hrows .having
  have hgroup : g.groupBy = k.groupBy := hrows .groupBy
  have horder : g.orderBy = k.orderBy := hrows .orderBy
  rw [hg, hk, hselect, hfilter, hhaving, hgroup, horder]

theorem forall₂_isSanitized_iff {c : Clause} :
    List.Forall₂ (Row.IsSanitized t c (clauseOptions t f c)) (f.rows c) (g.rows c) ↔
      g.rows c = (f.sanitize t).rows c := by
  have hrule : Row.IsSanitized t c (clauseOptions t f c) =
      fun r s => (r.keepOffered (clauseOptions t f c)).fit t c = s := by
    funext r s
    exact propext (Row.isSanitized_iff.trans eq_comm)
  rw [hrule, rows_sanitize, ← List.forall₂_map_left_iff, List.forall₂_eq_eq_eq, eq_comm]

/-- **What sanitizing changes.** A form is the sanitized one exactly if it differs in nothing but its rows, and its rows
are those of each clause, as many and in the same order, with nothing changed but this: a metric with a function that
the table knows has its list of parameters cut or padded to the number that the function takes; a row that may not stay
on its key keeps only its kind, its alias, its order and its identity; and a selected row whose key, if it still has
one, is that of a column that cannot be renamed has lost its alias. -/
theorem eq_sanitize_iff (f g : Form) (t : TableOptions) :
    g = f.sanitize t ↔
      f.SameButRows g ∧
        ∀ c, List.Forall₂ (Row.IsSanitized t c (clauseOptions t f c)) (f.rows c) (g.rows c) := by
  simp only [forall₂_isSanitized_iff]
  constructor
  · rintro rfl
    exact ⟨rfl, fun _ => rfl⟩
  · rintro ⟨hsame, hrows⟩
    exact hsame.eq rfl hrows

/-- A cleared row keeps its alias although its key was one that cannot be renamed, and a metric without a function keeps
its parameters although the table has a function without a name. -/
theorem eq_sanitize_not :
    let byte : FieldOption := { label := "byte", value := "byte", kind := .metric 1, operators := [] }
    let t : TableOptions := ⟨[], [byte], [⟨"", 0, some [1]⟩], []⟩
    let gateway : Row := { Row.tag "resource_gl0" with aliasName := "gateway" }
    let counted : Row := { kind := .metric, key := "byte", params := .list [.text "95"] }
    let f : Form := { new .trafficQuery with select := [gateway, counted] }
    (¬∀ (i : Nat) (r s : Row), f.select[i]? = some r → (f.sanitize t).select[i]? = some s →
      Text.contains r.key "resource_gl" = true → s.aliasName = "") ∧
    ¬∀ (i : Nat) (r s : Row), f.select[i]? = some r → (f.sanitize t).select[i]? = some s → r.kind = .metric →
      ∀ func ∈ t.functions, func.name = r.func → ∀ items, r.params = .list items →
        ∃ fitted, s.params = .list fitted ∧ Resizes func.paramCount items fitted := by
  intro byte t gateway counted f
  have hsanitized : (f.sanitize t).select = [{ kind := .tag, aliasName := "gateway" }, counted] := by decide
  rw [hsanitized]
  constructor
  · intro h
    exact absurd (h 0 gateway _ rfl rfl (by decide)) (by decide)
  · intro h
    obtain ⟨fitted, hparams, hfitted⟩ := h 1 counted counted rfl rfl rfl _ (List.mem_singleton_self _) rfl _ rfl
    cases hparams
    exact absurd hfitted.length (by decide)

end Form
end PanelQuery
