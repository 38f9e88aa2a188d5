import PanelQuery.Proofs.Payload
import PanelQuery.Proofs.Validation

/-!
# Which metrics a grouped query aggregates

While grouping, validation asks for a function in every row on a metric, unless the key of the row looks like a time
bucket (`Row.isAggregated_iff`). An order by such a key is by time. But the select clause has no time buckets: a row
with such a key selects a metric of that name, by its bare name if there is nothing else to it
(`Form.key_mem_metrics_iff`), and a condition of the having clause compares it. So a valid grouped query aggregates
every metric exactly if no row of these clauses is on a metric of such a name without a function
(`Form.metrics_aggregated_iff`).
-/

namespace PanelQuery

/-! ## Rows on metrics -/

namespace Row

variable {r : Row} {name : String}

/-- Whether a row applies a function, if it is on a metric. -/
def IsAggregated (r : Row) : Prop := r.kind = .metric → r.hasKey = true → r.func ≠ ""

/-- Whether a row is on a metric whose key looks like a time bucket, and applies no function to it. -/
def IsUnaggregatedBucket (r : Row) : Prop := r.kind = .metric ∧ r.isBucket = true ∧ r.func = ""

theorem hasKey_of_isBucket (h : r.isBucket = true) : r.hasKey = true := by
  by_contra hkey
  have hempty : r.realKey = "" := by simpa [hasKey] using hkey
  rw [isBucket, hempty] at h
  exact absurd h (by decide)

theorem isAggregated_of_not_isBucket (h : r.lacksFunction = false) (hbucket : r.isBucket = false) :
    r.IsAggregated := by
  intro hkind hkey hfunc
  simp [lacksFunction, isMetric, hkind, hkey, hfunc, hbucket] at h

/-- What validation lets pass is aggregated, but for metrics whose keys look like time buckets. -/
theorem isAggregated_iff (h : r.lacksFunction = false) : r.IsAggregated ↔ ¬r.IsUnaggregatedBucket := by
  constructor
  · rintro hagg ⟨hkind, hbucket, hfunc⟩
    exact hagg hkind (hasKey_of_isBucket hbucket) hfunc
  · intro hnot
    cases hbucket : r.isBucket with
    | false => exact isAggregated_of_not_isBucket h hbucket
    | true => exact fun hkind _ hfunc => hnot ⟨hkind, hbucket, hfunc⟩

theorem func_eq_of_isBare (h : r.isBare = true) : r.func = "" := by
  simp only [isBare, Bool.and_eq_true, String.isEmpty_iff] at h
  exact h.1.1.1.1

theorem selection_eq_key_iff : r.selection = .key name ↔ r.isBare = true ∧ r.realKey = name := by
  unfold selection
  cases r.isBare <;> simp

end Row

/-! ## Metrics of a payload -/

namespace Form

variable {f : Form} {ctx : Context} {name : String}

theorem mem_metrics_compile {s : Selection} :
    s ∈ (f.compile ctx).metrics ↔ ∃ r ∈ f.select, r.hasKey = true ∧ r.kind = .metric ∧ r.selection = s := by
  simp [compile, selections, and_assoc]

/-- The metrics that a valid grouped query selects by their bare names. -/
theorem key_mem_metrics_iff (hvalid : f.IsValid) (hgrouped : f.isGrouped = true) :
    .key name ∈ (f.compile ctx).metrics ↔
      ∃ r ∈ f.select, r.IsUnaggregatedBucket ∧ r.isBare = true ∧ r.realKey = name := by
  simp only [mem_metrics_compile, Row.selection_eq_key_iff]
  constructor
  · rintro ⟨r, hr, hkey, hkind, hbare, hname⟩
    have hpasses := hvalid.functions hgrouped r (by simp [hr])
    refine ⟨r, hr, ?_, hbare, hname⟩
    by_contra hnot
    exact (Row.isAggregated_iff hpasses).mpr hnot hkind hkey (Row.func_eq_of_isBare hbare)
  · rintro ⟨r, hr, ⟨hkind, hbucket, -⟩, hbare, hname⟩
    exact ⟨r, hr, Row.hasKey_of_isBucket hbucket, hkind, hbare, hname⟩

theorem forall_metrics_expr_iff :
    (∀ s ∈ (f.compile ctx).metrics, ∃ e, s = .expr e) ↔ ∀ name, .key name ∉ (f.compile ctx).metrics := by
  constructor
  · intro h name hname
    obtain ⟨e, he⟩ := h _ hname
    cases he
  · intro h s hs
    cases s with
    | key name => exact absurd hs (h name)
    | expr e => exact ⟨e, rfl⟩

/-- **When a grouped query aggregates every metric.** In a form without fault that groups, the rows of the order-by
clause on metrics apply a function unless they order by a time bucket. The rows of the select and having clauses on
metrics do exactly if none of those without one has a key that looks like a time bucket, and all selected metrics are
expressions exactly if none of these rows is selected by its bare name. -/
theorem metrics_aggregated_iff (f : Form) (ctx : Context) (hfault : f.fault? = none) (hgrouped : f.isGrouped = true) :
    (∀ r ∈ f.orderBy, r.isBucket = false → r.IsAggregated) ∧
    ((∀ r ∈ f.select ++ f.having, r.IsAggregated) ↔ ∀ r ∈ f.select ++ f.having, ¬r.IsUnaggregatedBucket) ∧
    ((∀ s ∈ (f.compile ctx).metrics, ∃ e, s = .expr e) ↔
      ∀ r ∈ f.select, r.IsUnaggregatedBucket → r.isBare = false) := by
  have hvalid := fault?_eq_none_iff.mp hfault
  have hpasses := hvalid.functions hgrouped
  refine ⟨fun r hr hbucket => ?_, forall₂_congr fun r hr => ?_, ?_⟩
  · exact Row.isAggregated_of_not_isBucket (hpasses r (by simp [hr])) hbucket
  · exact Row.isAggregated_iff (hpasses r (List.mem_append_left _ hr))
  · rw [forall_metrics_expr_iff]
    simp only [key_mem_metrics_iff hvalid hgrouped]
    constructor
    · intro hnone r hr hbucket
      by_contra hbare
      exact hnone _ ⟨r, hr, hbucket, by simpa using hbare, rfl⟩
    · rintro hall name ⟨r, hr, hbucket, hbare, -⟩
      rw [hall r hr hbucket] at hbare
      cases hbare

/-- A metric named like a time bucket passes validation without a function and is selected by its bare name. -/
theorem metrics_aggregated_not :
    let bucket : Row := { kind := .metric, key := "interval_60" }
    let f : Form := { new .trafficQuery with select := [bucket], interval := "60" }
    let ctx : Context := { declared := [], bindings := [] }
    f.fault? = none ∧ f.isGrouped = true ∧ (f.compile ctx).metrics = [.key "interval_60"] ∧
      (¬∀ r ∈ f.select ++ f.having, r.IsAggregated) ∧ ¬∀ s ∈ (f.compile ctx).metrics, ∃ e, s = .expr e := by
  intro bucket f ctx
  have hfault : f.fault? = none := by decide
  have hgrouped : f.isGrouped = true := by decide
  have hbucket : bucket.IsUnaggregatedBucket := ⟨rfl, by decide, rfl⟩
  obtain ⟨-, hrows, hmetrics⟩ := metrics_aggregated_iff f ctx hfault hgrouped
  refine ⟨hfault, hgrouped, by decide, fun hall => ?_, fun hall => ?_⟩
  · exact hrows.mp hall bucket List.mem_cons_self hbucket
  · exact absurd (hmetrics.mp hall bucket List.mem_cons_self hbucket) (by decide)

end Form
end PanelQuery
