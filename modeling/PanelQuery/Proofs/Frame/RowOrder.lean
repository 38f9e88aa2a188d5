import Mathlib.Data.List.Pairwise
import PanelQuery.Proofs.Frame.Series

/-!
# Series and the order of rows

A querier may answer with its rows in any order. `shapeFrames_perm_iff` says when the series drawn from them are the
same whatever that order is. Records are sorted by time within a series, but whether there is a time at all is read off
the first record: if it has a number there, a record without one comes last, and if it has none, no series is sorted and
the times are shown as text. So the order of rows is of no matter only if all records have a time, or none of them has.
-/

namespace PanelQuery

/-! ## Results -/

/-- A result with a value for each column in each row, of whose columns exactly one is named like a time and is no
metric. -/
structure QueryResult.HasOneTime (result : QueryResult) (q : CompiledQuery) (time : String) : Prop where
  row_length : ∀ row ∈ result.rows, row.length = result.columns.length
  time_iff : ∀ name, name ∈ result.columns ∧ q.IsTimeNamed name ↔ name = time

/-- Whether any two rows of one series have different times, of which one may be none. -/
def QueryResult.TellsTimesApart (result : QueryResult) (q : CompiledQuery) (time : String) : Prop :=
  result.records.Pairwise fun r s => seriesKey q r.prepare = seriesKey q s.prepare → timeOf? time r ≠ timeOf? time s

/-- Whether the first row has a number for its time. -/
def QueryResult.StartsInTime (result : QueryResult) (time : String) : Prop :=
  ∀ r ∈ result.records.head?, (timeOf? time r).isSome = true

section Results

variable {f : Form} {q : CompiledQuery} {time : String} {result : QueryResult}

/-- In a decoded result every row has a value for each column. -/
theorem QueryResult.row_length_of_ofBody {body : String} (h : QueryResult.ofBody body = .ok result) :
    ∀ row ∈ result.rows, row.length = result.columns.length := by
  unfold QueryResult.ofBody at h
  split at h
  · cases h
  · next envelope _ =>
    unfold QueryResult.ofEnvelope at h
    dsimp only at h
    split at h
    · cases h
    · split at h
      · cases h
      · cases h
      · next columns rows _ =>
        split at h
        · cases h
        · next hnone =>
          cases h
          intro row hrow
          simpa using List.find?_eq_none.mp hnone row hrow

theorem QueryResult.HasOneTime.contains_time (h : result.HasOneTime q time) : Text.contains time "time" = true :=
  ((h.time_iff time).mpr rfl).2.2

/-- The prepared records of a result with one time are alike. -/
theorem QueryResult.HasOneTime.alike (h : result.HasOneTime q time) :
    Alike q time (preparedNames result.columns) (result.records.map Record.prepare) := by
  constructor
  · intro r hr
    obtain ⟨raw, hraw, rfl⟩ := List.mem_map.mp hr
    obtain ⟨row, _, rfl⟩ := List.mem_map.mp hraw
    exact Record.ascending_prepare ascending_recordOf
  · intro r hr
    obtain ⟨raw, hraw, rfl⟩ := List.mem_map.mp hr
    obtain ⟨row, hrow, rfl⟩ := List.mem_map.mp hraw
    exact names_prepare_recordOf (h.row_length row hrow)
  · intro name
    rw [← h.time_iff name]
    exact and_congr_left fun hnamed => mem_preparedNames hnamed.2

theorem QueryResult.TellsTimesApart.toldApart (h : result.TellsTimesApart q time)
    (htime : Text.contains time "time" = true) : ToldApart q time (result.records.map Record.prepare) := by
  have hsymm : Std.Symm fun r s : Record =>
      seriesKey q r.prepare = seriesKey q s.prepare → timeOf? time r = timeOf? time s → r = s :=
    ⟨fun r s h hkey htimes => (h hkey.symm htimes.symm).symm⟩
  have hsame : ∀ r ∈ result.records, ∀ s ∈ result.records,
      seriesKey q r.prepare = seriesKey q s.prepare → timeOf? time r = timeOf? time s → r = s :=
    @List.Pairwise.forall_of_forall _ _ _ hsymm (fun _ _ _ _ => rfl)
      (h.imp fun hne hkey htimes => absurd htimes (hne hkey))
  intro _ hr _ hs hkey htimes
  obtain ⟨r, hraw, rfl⟩ := List.mem_map.mp hr
  obtain ⟨s, hsaw, rfl⟩ := List.mem_map.mp hs
  rw [timeOf?_prepare htime, timeOf?_prepare htime] at htimes
  rw [hsame r hraw s hsaw hkey htimes]

/-! ## Rows in another order -/

section Reordered

variable {rows : List (List Json)}

/-- Another order of the rows keeps the one time. -/
theorem QueryResult.HasOneTime.of_perm (h : result.HasOneTime q time) (hperm : rows.Perm result.rows) :
    { result with rows }.HasOneTime q time where
  row_length row hrow := h.row_length row (hperm.mem_iff.mp hrow)
  time_iff := h.time_iff

/-- Another order of the rows is another order of the records. -/
theorem QueryResult.records_perm (hperm : rows.Perm result.rows) :
    result.records.Perm { result with rows }.records :=
  (hperm.map _).symm

/-- The first of the prepared records has a time if the result starts with one. -/
theorem QueryResult.StartsInTime.prepared (h : result.StartsInTime time) (htime : Text.contains time "time" = true) :
    ∀ r ∈ (result.records.map Record.prepare).head?, (timeOf? time r).isSome = true := by
  intro r hr
  rw [List.head?_map, Option.mem_def, Option.map_eq_some_iff] at hr
  obtain ⟨raw, hraw, rfl⟩ := hr
  rw [timeOf?_prepare htime]
  exact h raw hraw

/-- Two orders that both start with a time give the same outcome. -/
theorem shapeFrames_eq_of_startsInTime (hseries : isSeries f q = true) (htime : result.HasOneTime q time)
    (hapart : result.TellsTimesApart q time) (hperm : rows.Perm result.rows) (hstarts : result.StartsInTime time)
    (hstarts' : { result with rows }.StartsInTime time) :
    shapeFrames { result with rows } q f = shapeFrames result q f := by
  have hrecords := (QueryResult.records_perm hperm).map Record.prepare
  rw [shapeFrames_eq hseries, shapeFrames_eq hseries]
  exact (htime.alike.shapeSeries_eq_of_some (hapart.toldApart htime.contains_time) hrecords
    (hstarts.prepared htime.contains_time) (hstarts'.prepared htime.contains_time)).symm

/-- Without any time all orders give the same outcome. -/
theorem shapeFrames_eq_of_timeless (hseries : isSeries f q = true) (htime : result.HasOneTime q time)
    (hapart : result.TellsTimesApart q time) (hperm : rows.Perm result.rows)
    (hnone : ∀ r ∈ result.records, timeOf? time r = none) :
    shapeFrames { result with rows } q f = shapeFrames result q f := by
  have hrecords := (QueryResult.records_perm hperm).map Record.prepare
  have hprepared : ∀ r ∈ result.records.map Record.prepare, timeOf? time r = none := by
    rw [List.forall_mem_map]
    intro r hr
    rw [timeOf?_prepare htime.contains_time, hnone r hr]
  rw [shapeFrames_eq hseries, shapeFrames_eq hseries,
    htime.alike.shapeSeries_eq_of_none (hapart.toldApart htime.contains_time) hrecords hprepared]

/-- There are frames exactly if all metrics can be read. -/
theorem exists_shapeFrames_iff (hseries : isSeries f q = true) (htime : result.HasOneTime q time) :
    (∃ frames, shapeFrames result q f = .ok frames) ↔ ∀ r ∈ result.records, HasMetrics q r.prepare := by
  rw [shapeFrames_eq hseries, htime.alike.exists_shapeSeries_iff, List.forall_mem_map]

/-- A result without frames has none in another order. -/
theorem shapeFrames_refused_of_perm (hseries : isSeries f q = true) (htime : result.HasOneTime q time)
    (hperm : rows.Perm result.rows) (hrefused : (shapeFrames result q f).toOption = none) :
    (shapeFrames { result with rows } q f).toOption = none := by
  cases hshape : shapeFrames { result with rows } q f with
  | error e => rfl
  | ok frames =>
    have hmetrics := (exists_shapeFrames_iff hseries (htime.of_perm hperm)).mp ⟨frames, hshape⟩
    obtain ⟨frames', hframes⟩ := (exists_shapeFrames_iff hseries htime).mpr fun r hr =>
      hmetrics r ((QueryResult.records_perm hperm).mem_iff.mp hr)
    rw [hframes] at hrefused
    cases hrefused

end Reordered

/-- If all orders give the same frames, these have a field of times exactly if any of the records has a time. -/
theorem exists_time_iff_of_mem (hseries : isSeries f q = true) (htime : result.HasOneTime q time) {frames : List Frame}
    (hall : ∀ rows, rows.Perm result.rows → shapeFrames { result with rows } q f = .ok frames) {r : Record}
    (hr : r ∈ result.records) :
    (∃ frame ∈ frames, ∃ field ∈ frame.fields, field.kind = .time) ↔ (timeOf? time r).isSome = true := by
  obtain ⟨row, hrow, rfl⟩ := List.mem_map.mp hr
  obtain ⟨before, after, hrows⟩ := List.append_of_mem hrow
  -- the order that starts with the row
  have hperm : (row :: (before ++ after)).Perm result.rows := by
    rw [hrows]
    exact List.perm_middle.symm
  have hframes := hall _ hperm
  rw [shapeFrames_eq hseries] at hframes
  rw [← timeOf?_prepare htime.contains_time]
  exact (htime.of_perm hperm).alike.exists_time_iff hframes

/-- If all orders give the same frames, all records have a time or none has. -/
theorem times_of_forall_perm (hseries : isSeries f q = true) (htime : result.HasOneTime q time) {frames : List Frame}
    (hall : ∀ rows, rows.Perm result.rows → shapeFrames { result with rows } q f = .ok frames) :
    (∀ r ∈ result.records, (timeOf? time r).isSome = true) ∨ ∀ r ∈ result.records, timeOf? time r = none := by
  by_cases hshown : ∃ frame ∈ frames, ∃ field ∈ frame.fields, field.kind = .time
  · exact .inl fun r hr => (exists_time_iff_of_mem hseries htime hall hr).mp hshown
  · refine .inr fun r hr => Option.not_isSome_iff_eq_none.mp fun hsome => hshown ?_
    exact (exists_time_iff_of_mem hseries htime hall hr).mpr hsome

/-- **When the order of rows matters.** Series are drawn from a result with one column of times that tells the rows of
each series apart. All orders of the rows that start with a time give the same frames, or are refused with the same
error. All orders whatsoever give the same frames exactly if all rows have a time, or none has, or the result has no
frames in any order. -/
theorem shapeFrames_perm_iff (hseries : isSeries f q = true) (htime : result.HasOneTime q time)
    (hapart : result.TellsTimesApart q time) :
    (∀ rows, rows.Perm result.rows → result.StartsInTime time → { result with rows }.StartsInTime time →
      shapeFrames { result with rows } q f = shapeFrames result q f) ∧
    ((∀ rows, rows.Perm result.rows →
        (shapeFrames { result with rows } q f).toOption = (shapeFrames result q f).toOption) ↔
      (∀ r ∈ result.records, (timeOf? time r).isSome = true) ∨ (∀ r ∈ result.records, timeOf? time r = none) ∨
        (shapeFrames result q f).toOption = none) := by
  refine ⟨fun rows => shapeFrames_eq_of_startsInTime hseries htime hapart, ?_, ?_⟩
  · intro hall
    cases hshape : shapeFrames result q f with
    | error e => exact .inr (.inr rfl)
    | ok frames =>
      have hframes : ∀ rows, rows.Perm result.rows → shapeFrames { result with rows } q f = .ok frames := by
        intro rows hperm
        rw [← toOption_eq_some_iff, hall rows hperm, hshape]
        rfl
      exact (times_of_forall_perm hseries htime hframes).imp_right .inl
  · rintro (hall | hnone | hrefused) rows hperm
    · have hstarts : result.StartsInTime time := fun r hr => hall r (List.mem_of_mem_head? hr)
      have hstarts' : { result with rows }.StartsInTime time := fun r hr =>
        hall r ((QueryResult.records_perm hperm).mem_iff.mpr (List.mem_of_mem_head? hr))
      rw [shapeFrames_eq_of_startsInTime hseries htime hapart hperm hstarts hstarts']
    · rw [shapeFrames_eq_of_timeless hseries htime hapart hperm hnone]
    · rw [hrefused, shapeFrames_refused_of_perm hseries htime hperm hrefused]

/-- A row without a time changes the frame of its series by coming first. -/
theorem shapeFrames_perm_not :
    let q : CompiledQuery := { sql := "SELECT time, pod FROM t GROUP BY time, pod", tags := [], metrics := [] }
    let f : Form := Form.new .trafficQuery
    let result : QueryResult := ⟨["time", "pod"], [[.int 60, .text "a"], [.null, .text "a"]]⟩
    isSeries f q = true ∧ result.HasOneTime q "time" ∧ result.TellsTimesApart q "time" ∧
      ¬∀ rows, rows.Perm result.rows →
        (shapeFrames { result with rows } q f).toOption = (shapeFrames result q f).toOption := by
  intro q f result
  have hseries : isSeries f q = true := by decide
  have htime : result.HasOneTime q "time" := by
    refine ⟨by decide, fun name => ⟨?_, ?_⟩⟩
    · rintro ⟨hname, -, hnamed⟩
      rcases List.mem_cons.mp hname with rfl | hname
      · rfl
      · rw [List.mem_singleton.mp hname] at hnamed
        exact absurd hnamed (by decide)
    · rintro rfl
      exact ⟨List.mem_cons_self, rfl, by decide⟩
  have hapart : result.TellsTimesApart q "time" :=
    List.pairwise_pair.mpr fun _ => nofun
  refine ⟨hseries, htime, hapart, fun hall => ?_⟩
  rcases (shapeFrames_perm_iff hseries htime hapart).2.mp hall with hsome | hnone | hrefused
  · exact absurd (hsome _ (List.mem_cons_of_mem _ List.mem_cons_self)) (by decide)
  · exact absurd (hnone _ List.mem_cons_self) nofun
  · obtain ⟨frames, hframes⟩ := (exists_shapeFrames_iff hseries htime).mpr fun _ _ _ _ => nofun
    rw [hframes] at hrefused
    cases hrefused

end Results

end PanelQuery
