import PanelQuery.Proofs.Payload

/-!
# The limit on series

A query is grouped by time if its interval is not blank (`Form.exists_isBucket_iff`) and by tags if a group-by row has a
key (`Form.exists_isTag_iff`). The limit on series looks at the interval as it is written, so it is always there for a
query grouped by both, and there besides for one that is grouped by tags under a blank interval
(`Form.seriesLimit_agrees_iff`).
-/

namespace PanelQuery

namespace Selection

/-- Whether an entry is a time bucket: the time in intervals of some width, under a name. -/
def IsBucket (s : Selection) : Prop :=
  ∃ width name, s = .expr (.column "interval" "time" (some (.single width)) (some name))

/-- Whether an entry is a tag by its key, under another name if it has one. -/
def IsTag (s : Selection) : Prop := ∃ key, s = .key key ∨ ∃ name, s = .expr (.column "" key none (some name))

theorem IsTag.not_isBucket {s : Selection} (h : s.IsTag) : ¬s.IsBucket := by
  rintro ⟨width, name, rfl⟩
  obtain ⟨key, hkey | ⟨name', hexpr⟩⟩ := h
  · cases hkey
  · simp at hexpr

end Selection

theorem Row.isTag_grouping (r : Row) : r.grouping.IsTag := by
  refine ⟨r.realKey, ?_⟩
  unfold grouping
  split
  · exact .inl rfl
  · exact .inr ⟨_, rfl⟩

namespace Form

variable {f : Form} {ctx : Context}

theorem isBucket_of_timeBucket? {s : Selection} (h : f.timeBucket? ctx = some s) : s.IsBucket := by
  obtain ⟨interval, -, rfl⟩ := Option.map_eq_some_iff.mp h
  exact ⟨_, _, rfl⟩

theorem mem_groupBy_compile {s : Selection} :
    s ∈ (f.compile ctx).groupBy ↔
      f.timeBucket? ctx = some s ∨ ∃ r ∈ f.groupBy, r.hasKey = true ∧ r.grouping = s := by
  simp [compile, and_assoc]

/-- A query is grouped by time unless its interval is blank. -/
theorem exists_isBucket_iff : (∃ s ∈ (f.compile ctx).groupBy, s.IsBucket) ↔ Text.trim f.interval ≠ "" := by
  rw [← @Interval.isSome_resolve?_iff ctx, ← Option.isSome_map, ← timeBucket?]
  constructor
  · rintro ⟨s, hs, hbucket⟩
    rcases mem_groupBy_compile.mp hs with htime | ⟨r, -, -, rfl⟩
    · exact Option.isSome_of_eq_some htime
    · exact absurd hbucket r.isTag_grouping.not_isBucket
  · intro hsome
    obtain ⟨s, hs⟩ := Option.isSome_iff_exists.mp hsome
    exact ⟨s, mem_groupBy_compile.mpr (.inl hs), isBucket_of_timeBucket? hs⟩

/-- A query is grouped by tags if a row says so. -/
theorem exists_isTag_iff :
    (∃ s ∈ (f.compile ctx).groupBy, s.IsTag) ↔ ∃ r ∈ f.groupBy, r.hasKey = true := by
  constructor
  · rintro ⟨s, hs, htag⟩
    rcases mem_groupBy_compile.mp hs with htime | ⟨r, hr, hkey, -⟩
    · exact absurd (isBucket_of_timeBucket? htime) htag.not_isBucket
    · exact ⟨r, hr, hkey⟩
  · rintro ⟨r, hr, hkey⟩
    exact ⟨r.grouping, mem_groupBy_compile.mpr (.inr ⟨r, hr, hkey, rfl⟩), r.isTag_grouping⟩

theorem isSome_slimit_iff :
    (f.compile ctx).slimit.isSome = true ↔ f.interval ≠ "" ∧ ∃ r ∈ f.groupBy, r.hasKey = true := by
  show f.seriesLimit?.isSome = true ↔ _
  unfold seriesLimit?
  split
  · next h => simpa [and_comm] using h
  · next h => simpa [and_comm] using h

/-- **When series are limited.** A query that is grouped by time and by tags has a limit on series. It has one only
then exactly if it is not grouped by tags under an interval of nothing but blanks. -/
theorem seriesLimit_agrees_iff (f : Form) (ctx : Context) :
    ((∃ s ∈ (f.compile ctx).groupBy, s.IsBucket) → (∃ s ∈ (f.compile ctx).groupBy, s.IsTag) →
        (f.compile ctx).slimit.isSome = true) ∧
    (((f.compile ctx).slimit.isSome = true ↔
        (∃ s ∈ (f.compile ctx).groupBy, s.IsBucket) ∧ ∃ s ∈ (f.compile ctx).groupBy, s.IsTag) ↔
      ¬(f.interval ≠ "" ∧ Text.trim f.interval = "" ∧ ∃ r ∈ f.groupBy, r.hasKey = true)) := by
  have hinterval : Text.trim f.interval ≠ "" → f.interval ≠ "" := by
    intro htrim hempty
    rw [hempty] at htrim
    exact htrim rfl
  rw [exists_isBucket_iff, exists_isTag_iff, isSome_slimit_iff]
  refine ⟨fun htrim htag => ⟨hinterval htrim, htag⟩, ?_, ?_⟩
  · rintro hagrees ⟨hwritten, hblank, htag⟩
    exact (hagrees.mp ⟨hwritten, htag⟩).1 hblank
  · intro hexcept
    constructor
    · rintro ⟨hwritten, htag⟩
      exact ⟨fun hblank => hexcept ⟨hwritten, hblank, htag⟩, htag⟩
    · rintro ⟨htrim, htag⟩
      exact ⟨hinterval htrim, htag⟩

/-- A query by pod under a blank interval limits the series that it does not make. -/
theorem seriesLimit_agrees_not :
    let f : Form := { new .trafficQuery with groupBy := [Row.tag "pod"], interval := " " }
    let ctx : Context := { declared := [], bindings := [] }
    (f.compile ctx).slimit = some "20" ∧ (f.compile ctx).groupBy = [.key "pod"] ∧
      ¬((f.compile ctx).slimit.isSome = true ↔
        (∃ s ∈ (f.compile ctx).groupBy, s.IsBucket) ∧ ∃ s ∈ (f.compile ctx).groupBy, s.IsTag) := by
  intro f ctx
  refine ⟨by decide, by decide, fun hagrees => ?_⟩
  have hexcept := (seriesLimit_agrees_iff f ctx).2.mp hagrees
  exact hexcept ⟨by decide, by decide, Row.tag "pod", List.mem_singleton.mpr rfl, by decide⟩

end Form
end PanelQuery
