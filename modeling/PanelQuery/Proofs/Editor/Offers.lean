import PanelQuery.Editor.Sanitize

/-!
# What the options of a form depend on

Whether a clause offers the key of a row is a question to the table (`TableOptions.HasTag`, `TableOptions.HasMetric`)
and, for selected tags and metrics to order by, one to the form, which has to group by the tag or to select the metric
if it groups at all (`allows_tag_iff`, `allows_metric_iff`). Of the form's rows only the columns count (`Row.column`).
-/

namespace PanelQuery

/-! ## Columns of rows -/

namespace Row

/-- The row with nothing but what it refers to, which is all that options depend on. -/
def column (r : Row) : Row := { kind := r.kind, key := r.key, fromSelect := r.fromSelect }

variable {r s : Row}

theorem key_eq_of_column_eq (h : r.column = s.column) : r.key = s.key := (congrArg key h :)

theorem kind_eq_of_column_eq (h : r.column = s.column) : r.kind = s.kind := (congrArg kind h :)

/-- Whether a row has a key depends on its column. -/
theorem hasKey_eq_of_column_eq (h : r.column = s.column) : r.hasKey = s.hasKey := (congrArg hasKey h :)

theorem isExempt_eq_of_column_eq (h : r.column = s.column) : r.isExempt = s.isExempt := (congrArg isExempt h :)

theorem allows_eq_of_column_eq {o : FieldOptions} (h : r.column = s.column) : o.allows r = o.allows s :=
  (congrArg o.allows h :)

theorem hasKey_of_key_ne (h : r.key ≠ "") : r.hasKey = true := by
  unfold hasKey realKey
  split
  · split
    · simpa using h
    · next hkey => simpa using hkey
  · simpa using h

theorem key_ne_of_isExempt_eq_false (h : r.isExempt = false) : r.key ≠ "" := by
  intro hkey
  simp [isExempt, hkey] at h

end Row

section Forms

variable {f g : Form} {key : String}

/-- The selected metric keys are those of the metric rows of the select clause. -/
theorem Form.mem_selectedMetricKeys : key ∈ f.selectedMetricKeys ↔ ∃ r ∈ f.select, r.kind = .metric ∧ r.key = key := by
  simp [selectedMetricKeys, Row.isMetric, and_assoc]

private theorem any_hasKey_eq (rows : List Row) : rows.any Row.hasKey = (rows.map Row.column).any Row.hasKey := by
  rw [List.any_map]
  rfl

private theorem filter_hasKey_map_key (rows : List Row) :
    (rows.filter Row.hasKey).map Row.key = ((rows.map Row.column).filter Row.hasKey).map Row.key := by
  rw [List.filter_map, List.map_map]
  rfl

theorem Form.any_hasKey_eq_of_columns (h : f.groupBy.map Row.column = g.groupBy.map Row.column) :
    f.groupBy.any Row.hasKey = g.groupBy.any Row.hasKey := by
  rw [any_hasKey_eq, h, ← any_hasKey_eq]

theorem Form.groupByKeys_eq_of_columns (h : f.groupBy.map Row.column = g.groupBy.map Row.column) :
    f.groupByKeys = g.groupByKeys := by
  unfold groupByKeys
  rw [filter_hasKey_map_key, h, ← filter_hasKey_map_key]

end Forms

/-! ## Options of clauses -/

/-- Whether a clause may offer a tag at all. -/
def FieldOption.FitsTag (o : FieldOption) : Clause → Prop
  | .select => o.whereOnly = false ∧ o.value ∉ reservedTags
  | .filter => o.isComparable = true
  | .having | .orderBy => o.isPlain = true
  | .groupBy => o.isGroupable = true

namespace TableOptions

/-- Whether a table has a tag that the clause may offer. -/
def HasTag (t : TableOptions) (c : Clause) (key : String) : Prop := ∃ tag ∈ t.tags, tag.value = key ∧ tag.FitsTag c

/-- Whether a table has a metric, which has to be no aggregate without grouping. -/
def HasMetric (t : TableOptions) (isGrouped : Bool) (key : String) : Prop :=
  ∃ metric ∈ t.metrics, metric.value = key ∧ (isGrouped = true ∨ metric.isAgg = false)

end TableOptions

section Clauses

variable {t : TableOptions} {f : Form} {c : Clause} {r : Row}

/-- A row is allowed exactly if one of the options of its kind has its key. -/
theorem FieldOptions.allows_iff {o : FieldOptions} :
    o.allows r = true ↔ ∃ option ∈ o.ofKind r.kind, option.value = r.key := by
  simp [allows]

private theorem exists_mem_filter_iff {options : List FieldOption} {p : FieldOption → Bool} {key : String} :
    (∃ o ∈ options.filter p, o.value = key) ↔ ∃ o ∈ options, o.value = key ∧ p o = true := by
  simp only [List.mem_filter, and_assoc, and_comm (a := p _ = true)]

/-- A tag is selectable if it fits the clause and, while grouping, is grouped by. -/
theorem FieldOption.isSelectable_iff {o : FieldOption} :
    o.isSelectable f = true ↔ o.FitsTag .select ∧ (f.isGrouped = true → o.value ∈ f.groupByKeys) := by
  cases h : f.isGrouped <;> simp [isSelectable, FitsTag, h]

/-- A clause offers a tag of the table that fits it, and that is grouped by if it is to be selected while grouping. -/
theorem allows_tag_iff (h : r.kind = .tag) :
    (clauseOptions t f c).allows r = true ↔
      t.HasTag c r.key ∧ (c = .select → f.isGrouped = true → r.key ∈ f.groupByKeys) := by
  rw [FieldOptions.allows_iff, h]
  cases c with
  | select =>
    simp only [clauseOptions, FieldOptions.ofKind, exists_mem_filter_iff, FieldOption.isSelectable_iff,
      TableOptions.HasTag, true_imp_iff]
    constructor
    · rintro ⟨tag, htag, hkey, hfits, hgrouped⟩
      exact ⟨⟨tag, htag, hkey, hfits⟩, hkey ▸ hgrouped⟩
    · rintro ⟨⟨tag, htag, hkey, hfits⟩, hgrouped⟩
      exact ⟨tag, htag, hkey, hfits, hkey ▸ hgrouped⟩
  | _ =>
    simp only [clauseOptions, FieldOptions.ofKind, exists_mem_filter_iff, TableOptions.HasTag, FieldOption.FitsTag,
      reduceCtorEq, false_imp_iff, and_true]

/-- The keys of the basic metrics are those of the metrics that fit the grouping. -/
theorem exists_mem_basicMetrics_iff {key : String} :
    (∃ o ∈ t.basicMetrics f, o.value = key) ↔ t.HasMetric f.isGrouped key := by
  simp only [TableOptions.basicMetrics, exists_mem_filter_iff, TableOptions.HasMetric, Bool.or_eq_true,
    Bool.not_eq_true']

/-- While grouping, only selected metrics are offered to order by. -/
theorem exists_mem_orderMetrics_iff {key : String} :
    (∃ o ∈ t.orderMetrics f, o.value = key) ↔
      t.HasMetric f.isGrouped key ∧ (f.isGrouped = true → key ∈ f.selectedMetricKeys) := by
  unfold TableOptions.orderMetrics
  split
  · next hgrouped =>
    simp only [exists_mem_filter_iff, List.contains_iff_mem, TableOptions.HasMetric, hgrouped, true_or, and_true,
      true_imp_iff]
    constructor
    · rintro ⟨metric, hmetric, rfl, hselected⟩
      exact ⟨⟨metric, hmetric, rfl⟩, hselected⟩
    · rintro ⟨⟨metric, hmetric, hkey⟩, hselected⟩
      exact ⟨metric, hmetric, hkey, hkey ▸ hselected⟩
  · next hgrouped => simp [exists_mem_basicMetrics_iff, hgrouped]

/-- A clause offers a metric of the table, which is no aggregate without grouping, and is selected if it is to be
ordered by while grouping. -/
theorem allows_metric_iff (h : r.kind = .metric) :
    (clauseOptions t f c).allows r = true ↔
      t.HasMetric f.isGrouped r.key ∧ (c = .orderBy → f.isGrouped = true → r.key ∈ f.selectedMetricKeys) := by
  rw [FieldOptions.allows_iff, h]
  cases c with
  | orderBy => simp only [clauseOptions, FieldOptions.ofKind, exists_mem_orderMetrics_iff, true_imp_iff]
  | _ =>
    simp only [clauseOptions, FieldOptions.ofKind, exists_mem_basicMetrics_iff, reduceCtorEq, false_imp_iff, and_true]

end Clauses

end PanelQuery
