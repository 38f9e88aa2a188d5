import PanelQuery.Proofs.Editor.Offers

/-!
# When a sanitized form is in line with its options

Sanitizing checks the keys of a form against the options of the form as it was. Clearing a group-by key changes those
options, so the keys that are left need not be offered any more. `Form.sanitize_settles_iff` says when they are: the
selected tags are still grouped by, and where grouping ended no aggregate is left (`Form.KeepsOptions`). A second pass
takes no group-by key away, so it always settles the form.
-/

namespace PanelQuery

/-! ## One row -/

namespace Params

/-- Parameters cut or padded to a number, if they are a list and there is a number. -/
def fit : Option Nat → Params → Params
  | some n, list items => list (items.take n ++ List.replicate (n - (items.take n).length) .empty)
  | _, params => params

/-- Parameters that fit a function are fitted once. -/
theorem fit_fit (n : Option Nat) (params : Params) : (params.fit n).fit n = params.fit n := by
  cases n with
  | none => rfl
  | some n =>
    cases params with
    | list items =>
      simp only [fit, list.injEq]
      generalize hfitted : items.take n ++ List.replicate (n - (items.take n).length) Scalar.empty = fitted
      have hlength : fitted.length = n := by
        rw [← hfitted, List.length_append, List.length_replicate, List.length_take]
        omega
      rw [List.take_of_length_le (Nat.le_of_eq hlength), hlength, Nat.sub_self, List.replicate_zero, List.append_nil]
    | single item => rfl

end Params

namespace Row

/-- The number of parameters that the function of a metric takes. -/
def arity? (t : TableOptions) (r : Row) : Option Nat :=
  if r.kind == .metric && !r.func.isEmpty then (t.function? r.func).map FunctionOption.paramCount else none

/-- Whether a row selects a column that cannot be renamed. -/
def hasFixedName (t : TableOptions) (c : Clause) (r : Row) : Bool :=
  c == .select && (Text.contains r.key "resource_gl" || (r.isMetric && t.isMapMetric r.key))

/-- What sanitizing does to a row besides clearing its key. -/
def fit (t : TableOptions) (c : Clause) (r : Row) : Row :=
  { r with
    params := r.params.fit (r.arity? t)
    aliasName := if r.hasFixedName t c then "" else r.aliasName }

section Fitting

variable (t : TableOptions) (c : Clause) (r : Row)

/-- Fitting changes the parameters of a row only. -/
theorem fitParams_eq : r.fitParams t = { r with params := r.params.fit (r.arity? t) } := by
  obtain ⟨kind, key, func, params⟩ := r
  unfold fitParams arity?
  dsimp only
  split
  · cases t.function? func <;> cases params <;> rfl
  · rfl

theorem fit_eq_of_ne_select (h : c ≠ .select) : r.fit t c = r.fitParams t := by
  simp [fitParams_eq, fit, hasFixedName, h]

theorem fit_select : r.fit t .select = (r.fitParams t).dropFixedAlias t := by
  rw [fitParams_eq, dropFixedAlias, fit]
  unfold hasFixedName
  rw [beq_self_eq_true, Bool.true_and]
  split
  · next hfixed => exact (if_pos hfixed).symm
  · next hfixed => exact (if_neg hfixed).symm

/-- Rows are fitted once and for all. -/
theorem fit_fit : (r.fit t c).fit t c = r.fit t c := by
  have harity : (r.fit t c).arity? t = r.arity? t := rfl
  have hname : (r.fit t c).hasFixedName t c = r.hasFixedName t c := rfl
  rw [fit, harity, hname]
  simp only [fit, Params.fit_fit]
  split <;> rfl

theorem column_fit : (r.fit t c).column = r.column := rfl

end Fitting

section Keeping

variable {t : TableOptions} {c : Clause} {r : Row} {o : FieldOptions}

theorem keepOffered_of_exempt (h : r.isExempt = true) : r.keepOffered o = r := by
  rw [keepOffered, if_pos (by simp [h])]

theorem keepOffered_of_allows (h : o.allows r = true) : r.keepOffered o = r := by
  rw [keepOffered, if_pos (by simp [h])]

/-- A row that is not exempt once options were applied to it is the row it was, and they allow it. -/
theorem keepOffered_of_not_exempt (h : (r.keepOffered o).isExempt = false) :
    r.keepOffered o = r ∧ o.allows r = true := by
  unfold keepOffered at h ⊢
  split at h
  · next hkept =>
    rw [if_pos hkept]
    exact ⟨rfl, by simpa [h] using hkept⟩
  · simp [isExempt, clearKey] at h

end Keeping

end Row

/-! ## One pass -/

namespace Form

variable {f : Form} {t : TableOptions} {c : Clause} {r : Row}

/-- Sanitizing goes through each clause row by row, by the options of the form as it was. -/
theorem rows_sanitize :
    (f.sanitize t).rows c = (f.rows c).map fun r => (r.keepOffered (clauseOptions t f c)).fit t c := by
  cases c with
  | select =>
    simp only [sanitize, mapRows, rows, List.map_map, Row.fit_select]
    rfl
  | _ =>
    refine List.map_congr_left fun r _ => ?_
    exact (Row.fit_eq_of_ne_select t _ _ (by decide)).symm

/-- Sanitizing changes nothing exactly if it changes no row. -/
theorem sanitize_eq_self_iff : f.sanitize t = f ↔ ∀ c, (f.sanitize t).rows c = f.rows c := by
  constructor
  · exact fun h c => congrArg (fun g => rows g c) h
  · intro h
    have hselect := h .select
    have hfilter := h .filter
    have hhaving := h .having
    have hgroup := h .groupBy
    have horder := h .orderBy
    cases f
    simp only [sanitize, mapRows, rows] at *
    simp only [hselect, hfilter, hhaving, hgroup, horder]

/-- Every clause offers the keys of its rows, but for those that sanitizing leaves alone. -/
def IsSettled (f : Form) (t : TableOptions) : Prop :=
  ∀ c, ∀ r ∈ f.rows c, r.isExempt = false → (clauseOptions t f c).allows r = true

/-- The rows that a pass leaves with a key of their own were there before, and offered. -/
theorem exists_of_mem_rows_sanitize (hr : r ∈ (f.sanitize t).rows c) (hexempt : r.isExempt = false) :
    (clauseOptions t f c).allows r = true ∧ ∃ s ∈ f.rows c, s.column = r.column := by
  rw [rows_sanitize, List.mem_map] at hr
  obtain ⟨s, hs, rfl⟩ := hr
  have hcolumn := Row.column_fit t c (s.keepOffered (clauseOptions t f c))
  rw [Row.isExempt_eq_of_column_eq hcolumn] at hexempt
  rw [Row.allows_eq_of_column_eq hcolumn, hcolumn]
  obtain ⟨hkept, hallows⟩ := Row.keepOffered_of_not_exempt hexempt
  rw [hkept]
  exact ⟨hallows, s, hs, rfl⟩

/-- Rows that are offered, and rows that need not be, are still there after a pass. -/
theorem exists_mem_rows_sanitize (hr : r ∈ f.rows c)
    (hkept : r.isExempt = true ∨ (clauseOptions t f c).allows r = true) :
    ∃ s ∈ (f.sanitize t).rows c, s.column = r.column := by
  refine ⟨r.fit t c, ?_, Row.column_fit t c r⟩
  rw [rows_sanitize, List.mem_map]
  exact ⟨r, hr, by rw [hkept.elim Row.keepOffered_of_exempt Row.keepOffered_of_allows]⟩

/-- A second pass changes nothing exactly if the first one settled the form. -/
theorem sanitize_sanitize_iff : (f.sanitize t).sanitize t = f.sanitize t ↔ (f.sanitize t).IsSettled t := by
  constructor
  · intro hsame c r hr hexempt
    rw [← hsame] at hr
    exact (exists_of_mem_rows_sanitize hr hexempt).1
  · intro hsettled
    refine sanitize_eq_self_iff.mpr fun c => ?_
    rw [rows_sanitize]
    refine (List.map_congr_left fun r hr => ?_).trans (List.map_id _)
    have hkept : r.keepOffered (clauseOptions t (f.sanitize t) c) = r := by
      cases hexempt : r.isExempt with
      | true => exact Row.keepOffered_of_exempt hexempt
      | false => exact Row.keepOffered_of_allows (hsettled c r hr hexempt)
    rw [rows_sanitize, List.mem_map] at hr
    obtain ⟨s, _, rfl⟩ := hr
    rw [hkept, Row.fit_fit, id]

/-! ## What a pass keeps of the options -/

/-- Grouping is never started by a pass. -/
theorem isGrouped_of_sanitize (h : (f.sanitize t).isGrouped = true) : f.isGrouped = true := by
  simp only [isGrouped, Bool.or_eq_true, List.any_eq_true] at h ⊢
  refine h.imp id ?_
  rintro ⟨r, hr, hkey⟩
  have hr' : r ∈ (f.sanitize t).rows .groupBy := hr
  rw [rows_sanitize, List.mem_map] at hr'
  obtain ⟨s, hs, rfl⟩ := hr'
  refine ⟨s, hs, ?_⟩
  rw [Row.hasKey_eq_of_column_eq (Row.column_fit t .groupBy _)] at hkey
  unfold Row.keepOffered at hkey
  split at hkey
  · exact hkey
  · simp [Row.hasKey, Row.realKey, Row.clearKey] at hkey

/-- What a pass over a form has to keep for its options to stay: the group-by keys of the selected tags, and where it
clears all of them, no aggregate. -/
structure KeepsOptions (f : Form) (t : TableOptions) : Prop where
  tags : (f.sanitize t).isGrouped = true →
    ∀ r ∈ (f.sanitize t).select, r.kind = .tag → r.isExempt = false → r.key ∈ (f.sanitize t).groupByKeys
  metrics : f.isGrouped = true → (f.sanitize t).isGrouped = false →
    ∀ c, ∀ r ∈ (f.sanitize t).rows c, r.kind = .metric → r.isExempt = false → t.HasMetric false r.key

/-- A metric that is ordered by after a pass is still selected. -/
theorem mem_selectedMetricKeys_sanitize (hr : r ∈ (f.sanitize t).orderBy) (hkind : r.kind = .metric)
    (hexempt : r.isExempt = false) (hgrouped : f.isGrouped = true) : r.key ∈ (f.sanitize t).selectedMetricKeys := by
  have hoffered := allows_metric_iff hkind |>.mp (exists_of_mem_rows_sanitize (c := .orderBy) hr hexempt).1
  obtain ⟨s, hs, hmetric, hkey⟩ := mem_selectedMetricKeys.mp (hoffered.2 rfl hgrouped)
  have hkept : s.isExempt = true ∨ (clauseOptions t f .select).allows s = true := by
    right
    rw [allows_metric_iff hmetric, hkey]
    exact ⟨hoffered.1, nofun⟩
  obtain ⟨s', hs', hcolumn⟩ := exists_mem_rows_sanitize (c := .select) hs hkept
  refine mem_selectedMetricKeys.mpr ⟨s', hs', ?_, ?_⟩
  · rw [Row.kind_eq_of_column_eq hcolumn, hmetric]
  · rw [Row.key_eq_of_column_eq hcolumn, hkey]

/-- A pass settles a form exactly if it keeps the options. -/
theorem isSettled_sanitize_iff : (f.sanitize t).IsSettled t ↔ f.KeepsOptions t := by
  constructor
  · intro hsettled
    constructor
    · intro hgrouped r hr hkind hexempt
      exact (allows_tag_iff hkind |>.mp (hsettled .select r hr hexempt)).2 rfl hgrouped
    · intro _ hgrouped c r hr hkind hexempt
      rw [← hgrouped]
      exact (allows_metric_iff hkind |>.mp (hsettled c r hr hexempt)).1
  · intro hkeeps c r hr hexempt
    have hallows := (exists_of_mem_rows_sanitize hr hexempt).1
    cases hkind : r.kind with
    | tag =>
      refine allows_tag_iff hkind |>.mpr ⟨(allows_tag_iff hkind |>.mp hallows).1, ?_⟩
      rintro rfl hgrouped
      exact hkeeps.tags hgrouped r hr hkind hexempt
    | metric =>
      have hoffered := allows_metric_iff hkind |>.mp hallows
      refine allows_metric_iff hkind |>.mpr ⟨?_, ?_⟩
      · cases hgrouped : (f.sanitize t).isGrouped with
        | true => rw [← isGrouped_of_sanitize hgrouped]; exact hoffered.1
        | false =>
          cases hbefore : f.isGrouped with
          | true => exact hkeeps.metrics hbefore hgrouped c r hr hkind hexempt
          | false => exact hbefore ▸ hoffered.1
      · rintro rfl hgrouped
        exact mem_selectedMetricKeys_sanitize hr hkind hexempt (isGrouped_of_sanitize hgrouped)

/-! ## Two passes -/

/-- After one pass the group-by clause offers the keys of its own rows: such a row is what makes a form grouped. -/
theorem allows_of_mem_groupBy_sanitize (hr : r ∈ (f.sanitize t).groupBy) (hexempt : r.isExempt = false) :
    (clauseOptions t (f.sanitize t) .groupBy).allows r = true := by
  have hallows := (exists_of_mem_rows_sanitize (c := .groupBy) hr hexempt).1
  have hkey := Row.hasKey_of_key_ne (Row.key_ne_of_isExempt_eq_false hexempt)
  have hgrouped : (f.sanitize t).isGrouped = true := by
    rw [isGrouped, Bool.or_eq_true]
    exact .inr (List.any_eq_true.mpr ⟨r, hr, hkey⟩)
  cases hkind : r.kind with
  | tag => exact allows_tag_iff hkind |>.mpr ⟨(allows_tag_iff hkind |>.mp hallows).1, nofun⟩
  | metric =>
    refine allows_metric_iff hkind |>.mpr ⟨?_, nofun⟩
    rw [hgrouped, ← isGrouped_of_sanitize hgrouped]
    exact (allows_metric_iff hkind |>.mp hallows).1

/-- A second pass leaves the group-by clause as it is. -/
theorem groupBy_columns_sanitize_sanitize :
    ((f.sanitize t).sanitize t).groupBy.map Row.column = (f.sanitize t).groupBy.map Row.column := by
  have hrows := rows_sanitize (f := f.sanitize t) (t := t) (c := .groupBy)
  simp only [rows] at hrows
  rw [hrows, List.map_map]
  refine List.map_congr_left fun r hr => ?_
  have hkept : r.keepOffered (clauseOptions t (f.sanitize t) .groupBy) = r := by
    cases hexempt : r.isExempt with
    | true => exact Row.keepOffered_of_exempt hexempt
    | false => exact Row.keepOffered_of_allows (allows_of_mem_groupBy_sanitize hr hexempt)
  show ((r.keepOffered _).fit t .groupBy).column = r.column
  rw [hkept, Row.column_fit]

theorem isGrouped_sanitize_sanitize : ((f.sanitize t).sanitize t).isGrouped = (f.sanitize t).isGrouped := by
  simp only [isGrouped, any_hasKey_eq_of_columns groupBy_columns_sanitize_sanitize]
  rfl

/-- A second pass keeps the options. -/
theorem keepsOptions_sanitize : (f.sanitize t).KeepsOptions t := by
  constructor
  · intro hgrouped r hr hkind hexempt
    rw [isGrouped_sanitize_sanitize] at hgrouped
    rw [groupByKeys_eq_of_columns groupBy_columns_sanitize_sanitize]
    exact (allows_tag_iff hkind |>.mp (exists_of_mem_rows_sanitize (c := .select) hr hexempt).1).2 rfl hgrouped
  · intro hbefore hafter
    rw [isGrouped_sanitize_sanitize, hbefore] at hafter
    exact absurd hafter (by decide)

/-! ## Valid forms -/

/-- Every clause offers the keys of its own rows; time buckets may be ordered by without being offered. -/
def IsOffered (f : Form) (t : TableOptions) : Prop :=
  ∀ c, ∀ r ∈ f.rows c, r.key ≠ "" → r.fromSelect = none →
    ¬(c = .orderBy ∧ Text.startsWith r.key bucketKeyStart = true) → (clauseOptions t f c).allows r = true

/-- Outside the order-by clause the keys that look like time buckets are offered, which sanitizing does not check. -/
def OffersBuckets (f : Form) (t : TableOptions) : Prop :=
  ∀ c, c ≠ .orderBy → ∀ r ∈ f.rows c, r.fromSelect = none → Text.startsWith r.key bucketKeyStart = true →
    (clauseOptions t f c).allows r = true

/-- A form is offered exactly if it is settled and its buckets are offered. -/
theorem isOffered_iff : f.IsOffered t ↔ f.IsSettled t ∧ f.OffersBuckets t := by
  constructor
  · intro h
    constructor
    · intro c r hr hexempt
      simp only [Row.isExempt, Bool.or_eq_false_iff] at hexempt
      obtain ⟨⟨hkey, hselect⟩, hbucket⟩ := hexempt
      refine h c r hr (by simpa using hkey) (by simpa using hselect) fun hc => ?_
      rw [hbucket] at hc
      exact absurd hc.2 (by decide)
    · intro c hc r hr hselect hbucket
      refine h c r hr (fun hkey => ?_) hselect fun horder => hc horder.1
      rw [hkey] at hbucket
      exact absurd hbucket (by decide)
  · rintro ⟨hsettled, hbuckets⟩ c r hr hkey hselect horder
    cases hbucket : Text.startsWith r.key bucketKeyStart with
    | true => exact hbuckets c (fun hc => horder ⟨hc, hbucket⟩) r hr hselect hbucket
    | false => exact hsettled c r hr (by simp [Row.isExempt, hkey, hselect, hbucket])

/-- **When sanitizing makes a form valid.** After a pass every clause offers its keys exactly if the pass kept the
options that it checked the form against, and the keys that look like time buckets are offered wherever they are not
ordered by. It is the first of these that a second pass depends on, which changes nothing exactly if the options were
kept. A third pass never changes anything. -/
theorem sanitize_settles_iff (f : Form) (t : TableOptions) :
    ((f.sanitize t).IsOffered t ↔ f.KeepsOptions t ∧ (f.sanitize t).OffersBuckets t) ∧
    ((f.sanitize t).sanitize t = f.sanitize t ↔ f.KeepsOptions t) ∧
    ((f.sanitize t).sanitize t).sanitize t = (f.sanitize t).sanitize t := by
  refine ⟨?_, ?_, ?_⟩
  · rw [isOffered_iff, isSettled_sanitize_iff]
  · rw [sanitize_sanitize_iff, isSettled_sanitize_iff]
  · exact sanitize_sanitize_iff.mpr (isSettled_sanitize_iff.mpr keepsOptions_sanitize)

/-- A tag that cannot be grouped by stays selected although its group-by row is cleared, and is gone after a second
pass. -/
theorem sanitize_settles_not :
    let tag (name : String) : FieldOption := { label := name, value := name, kind := .tag "resource", operators := [] }
    let t : TableOptions := ⟨[tag "pod", tag "lb_listener"], [], [], []⟩
    let f : Form := { Form.new .trafficQuery with
      select := [Row.tag "lb_listener"], groupBy := [Row.tag "pod", Row.tag "lb_listener"] }
    ¬(f.sanitize t).IsOffered t ∧ (f.sanitize t).sanitize t ≠ f.sanitize t := by
  intro tag t f
  have hlost : ¬f.KeepsOptions t := by
    intro hkeeps
    have hselected : Row.tag "lb_listener" ∈ (f.sanitize t).select := by decide
    have hkey := hkeeps.tags (by decide) _ hselected rfl (by decide)
    exact absurd hkey (by decide)
  refine ⟨fun hoffered => hlost ?_, fun hsame => hlost ?_⟩
  · exact ((sanitize_settles_iff f t).1.mp hoffered).1
  · exact (sanitize_settles_iff f t).2.1.mp hsame

end Form

end PanelQuery
