import Mathlib.Algebra.GroupWithZero.Nat
import Mathlib.Data.List.SplitBy
import PanelQuery.Proofs.Frame.Shown

/-!
# Series as a partition of the rows

What grouped series of time show of a result. Records are followed by their places in the result (`records.zipIdx`), so
that equal rows are told apart: the frames are those of a `SeriesPartition` of the placed records, in which every record
has its place once, two records share a part exactly if their tags are shown as the same texts (`Record.tagText`), the
parts come in the order of these texts, and each is in the order of time or, without a time, of the result
(`shapeFrames_partition`). There is only one such partition (`SeriesParts.eq`). There are frames exactly if every value
of a metric is one (`Json.isMetric`).
-/

namespace PanelQuery

/-! ## Values of metrics -/

/-- Whether a value can be that of a metric: null, a number, or a text that reads as one. -/
def Json.isMetric : Json → Bool
  | .null | .number _ => true
  | .text s => (Decimal.read? (Text.trim s)).isSome
  | _ => false

/-- A value has a number exactly if it may stand for a metric. -/
theorem exists_metricNumber_iff {name : String} {value : Json} :
    (∃ x, metricNumber name value = .ok x) ↔ value.isMetric = true := by
  unfold metricNumber Json.isMetric
  cases value with
  | text s => cases h : Decimal.read? (Text.trim s) <;> simp [h]
  | _ => simp

/-! ## Placed records -/

/-- Whether a name is the first of those of times. -/
def IsFirstTime (q : CompiledQuery) (records : List Record) (time : String) : Prop :=
  HasTimes q records time ∧ ∀ name, HasTimes q records name → time ≤ name

/-- There is one first time. -/
theorem IsFirstTime.eq {q : CompiledQuery} {records : List Record} {time other : String}
    (h : IsFirstTime q records time) (hother : IsFirstTime q records other) : time = other :=
  String.le_antisymm (h.2 other hother.1) (hother.2 time h.1)

/-- Whether a placed record comes before another by time: numbers in their total order, and then all that have none; of
one time, the records as they are placed. -/
def ComesBefore (time : String) (r s : Record × Nat) : Prop :=
  match (r.1.value time).number?, (s.1.value time).number? with
  | some a, some b => a.toDouble.rank < b.toDouble.rank ∨ a.toDouble.rank = b.toDouble.rank ∧ r.2 < s.2
  | some _, none => True
  | none, some _ => False
  | none, none => r.2 < s.2

/-- Whether placed records are the parts of series. -/
structure SeriesParts (q : CompiledQuery) (records : List Record) (parts : List (List (Record × Nat))) : Prop where
  /-- Every record is in one part, once. -/
  perm : parts.flatten.Perm records.zipIdx
  nonempty : ∀ part ∈ parts, part ≠ []
  /-- Records share a part exactly if all their tags are shown as the same texts. -/
  share_iff : ∀ r ∈ records.zipIdx, ∀ s ∈ records.zipIdx, (∃ part ∈ parts, r ∈ part ∧ s ∈ part) ↔
    ∀ tag ∈ q.tagsAmong (sharedNames records), r.1.tagText tag = s.1.tagText tag
  /-- The parts come in the order of these texts. -/
  ordered : parts.Pairwise fun part later => ∀ r ∈ part, ∀ s ∈ later,
    (q.tagsAmong (sharedNames records)).map r.1.tagText < (q.tagsAmong (sharedNames records)).map s.1.tagText
  /-- If there are times, each part is in the order of the first of them. -/
  by_time : (∃ name, HasTimes q records name) →
    ∃ time, IsFirstTime q records time ∧ ∀ part ∈ parts, part.Pairwise (ComesBefore time)
  /-- Without any, each part is in the order of the result. -/
  by_place : (¬∃ name, HasTimes q records name) → ∀ part ∈ parts, part.Pairwise fun r s => r.2 < s.2

/-- What frames show of prepared records, part by part. -/
structure SeriesPartition (f : Form) (q : CompiledQuery) (records : List Record) (parts : List (List (Record × Nat)))
    (frames : List Frame) : Prop extends SeriesParts q records parts where
  /-- Each frame shows the records of one part. -/
  shows : List.Forall₂ (fun part frame =>
    frame.Shows (seriesTitle f q (q.tagsAmong (sharedNames records)) (part.map Prod.fst)) (kindAmong q records false)
      (sharedNames records) (part.map Prod.fst)) parts frames
  /-- All fields of a frame are as long as its part. -/
  length_values : List.Forall₂ (fun part frame => ∀ field ∈ frame.fields, field.values.length = part.length)
    parts frames
  /-- Together the frames are as long as the result. -/
  sum_length : (parts.map List.length).sum = records.length

/-- Placed records in the order of time, if there is one. -/
def arrangePlaced (columns : List Column) (rows : List (Record × Nat)) : List (Record × Nat) :=
  match columns.find? Column.isTime with
  | some column => rows.mergeSort fun r s => timeLe (timeOf? column.name r.1) (timeOf? column.name s.1)
  | none => rows

/-- The parts of placed records, by tag values and each as it is arranged. -/
def placedParts (columns : List Column) (tags : List String) (placed : List (Record × Nat)) :
    List (List (Record × Nat)) :=
  (groupsByTexts (fun r => tagTexts tags r.1) placed).map fun group => arrangePlaced columns group.2

section Parts

variable {q : CompiledQuery} {columns : List Column} {tags : List String} {records : List Record}
  {placed part : List (Record × Nat)} {rows : List (Record × Nat)} {r s : Record × Nat}

/-- Arranging placed records neither loses nor duplicates any. -/
theorem arrangePlaced_perm : (arrangePlaced columns rows).Perm rows := by
  unfold arrangePlaced
  split
  · exact List.mergeSort_perm _ _
  · exact .refl _

/-- Placed records are arranged as the records are. -/
theorem map_arrangePlaced : (arrangePlaced columns rows).map Prod.fst = arranged columns (rows.map Prod.fst) := by
  unfold arrangePlaced arranged
  cases columns.find? Column.isTime with
  | none => rfl
  | some column =>
    exact List.map_mergeSort (s := fun r s => timeLe (timeOf? column.name r) (timeOf? column.name s)) fun _ _ _ _ => rfl

/-- The parts are the arranged series of the records. -/
theorem map_placedParts : (placedParts columns tags placed).map (List.map Prod.fst) =
    (seriesOf tags (placed.map Prod.fst)).map (arranged columns) := by
  rw [placedParts, seriesOf_eq, groupsByTexts_map, List.map_map, List.map_map, List.map_map]
  exact List.map_congr_left fun group _ => map_arrangePlaced

/-- The parts hold each of the placed records once. -/
theorem placedParts_flatten_perm : (placedParts columns tags placed).flatten.Perm placed := by
  have harranged : ∀ groups : List (List String × List (Record × Nat)),
      (groups.map fun group => arrangePlaced columns group.2).flatten.Perm (groups.map Prod.snd).flatten := by
    intro groups
    induction groups with
    | nil => exact .refl _
    | cons group rest ih => exact arrangePlaced_perm.append ih
  exact (harranged _).trans flatten_groupsByTexts_perm

/-! ### Tag values -/

/-- The parts are those of the tag values that occur, each with all of their records. -/
theorem mem_placedParts : part ∈ placedParts columns tags placed ↔
    ∃ r ∈ placed, part = arrangePlaced columns (placed.filter fun s => tagTexts tags s.1 = tagTexts tags r.1) := by
  rw [placedParts, List.mem_map]
  constructor
  · rintro ⟨⟨texts, rows⟩, hgroup, rfl⟩
    obtain ⟨⟨r, hr, rfl⟩, rfl⟩ := mem_groupsByTexts.mp hgroup
    exact ⟨r, hr, rfl⟩
  · rintro ⟨r, hr, rfl⟩
    exact ⟨(_, _), mem_groupsByTexts.mpr ⟨⟨r, hr, rfl⟩, rfl⟩, rfl⟩

/-- No part is empty. -/
theorem placedParts_nonempty (h : part ∈ placedParts columns tags placed) : part ≠ [] := by
  obtain ⟨r, hr, rfl⟩ := mem_placedParts.mp h
  exact List.ne_nil_of_mem (arrangePlaced_perm.mem_iff.mpr (mem_filter_own (fun s => tagTexts tags s.1) hr))

/-- Records share a part exactly if their tags have the same texts. -/
theorem placedParts_share_iff (hr : r ∈ placed) (hs : s ∈ placed) :
    (∃ part ∈ placedParts columns tags placed, r ∈ part ∧ s ∈ part) ↔ tagTexts tags r.1 = tagTexts tags s.1 := by
  constructor
  · rintro ⟨part, hpart, hrpart, hspart⟩
    obtain ⟨t, -, rfl⟩ := mem_placedParts.mp hpart
    rw [arrangePlaced_perm.mem_iff, List.mem_filter, decide_eq_true_eq] at hrpart hspart
    exact hrpart.2.trans hspart.2.symm
  · intro htexts
    refine ⟨_, mem_placedParts.mpr ⟨s, hs, rfl⟩, ?_, ?_⟩ <;> rw [arrangePlaced_perm.mem_iff, List.mem_filter]
    · exact ⟨hr, decide_eq_true htexts⟩
    · exact ⟨hs, decide_eq_true rfl⟩

/-- The parts are in the order of the texts of the tags. -/
theorem placedParts_ordered : (placedParts columns tags placed).Pairwise fun part later =>
    ∀ r ∈ part, ∀ s ∈ later, tagTexts tags r.1 < tagTexts tags s.1 := by
  have htexts : ∀ group ∈ groupsByTexts (fun r : Record × Nat => tagTexts tags r.1) placed,
      ∀ r ∈ arrangePlaced columns group.2, tagTexts tags r.1 = group.1 := by
    rintro ⟨texts, rows⟩ hgroup r hr
    obtain ⟨-, rfl⟩ := mem_groupsByTexts.mp hgroup
    exact of_decide_eq_true (List.mem_filter.mp (arrangePlaced_perm.mem_iff.mp hr)).2
  rw [placedParts, List.pairwise_map]
  refine pairwise_groupsByTexts.imp_of_mem fun {a b} ha hb hab r hr s hs => ?_
  rw [htexts a ha r hr, htexts b hb s hs]
  exact hab

/-! ### Times and places -/

/-- What sorting by time puts first comes before, with the place in the result where times are the same. -/
theorem comesBefore_of_timeLe {time : String} (hle : timeLe (timeOf? time r.1) (timeOf? time s.1) = true)
    (htie : timeLe (timeOf? time s.1) (timeOf? time r.1) = true → r.2 < s.2) : ComesBefore time r s := by
  unfold ComesBefore
  unfold timeOf? at hle htie
  cases hr : (r.1.value time).number? <;> cases hs : (s.1.value time).number? <;>
    simp [hr, hs, timeLe] at hle htie ⊢
  · exact htie
  · omega

/-- The columns of records are in the order of their names. -/
theorem sharedColumns_ascending (h : ∀ r ∈ records, Fields.Ascending r) :
    (sharedColumns q records).Pairwise fun c d => c.name < d.name := by
  cases records with
  | nil => exact List.Pairwise.nil
  | cons first rest => exact List.pairwise_map.mpr (h first List.mem_cons_self)

/-- The columns come in the order of their names, so that the first time is found first. -/
theorem isFirstTime_of_find? {c : Column} (hascending : ∀ r ∈ records, Fields.Ascending r)
    (hfind : (sharedColumns q records).find? Column.isTime = some c) : IsFirstTime q records c.name := by
  refine ⟨(hasTimes_iff hascending).mpr ⟨c, List.mem_of_find?_eq_some hfind, List.find?_some hfind, rfl⟩,
    fun name hname => ?_⟩
  obtain ⟨d, hd, hdtime, rfl⟩ := (hasTimes_iff hascending).mp hname
  obtain ⟨-, before, behind, hcolumns, hbefore⟩ := List.find?_eq_some_iff_append.mp hfind
  have hsorted := sharedColumns_ascending (q := q) hascending
  rw [hcolumns] at hd hsorted
  have hbehind := (List.pairwise_cons.mp (List.pairwise_append.mp hsorted).2.1).1
  rcases List.mem_append.mp hd with hd | hd
  · have hnot := hbefore d hd
    rw [hdtime] at hnot
    cases hnot
  · rcases List.mem_cons.mp hd with rfl | hd
    · exact String.le_refl _
    · exact String.not_lt.mp (String.lt_asymm (hbehind d hd))

/-- By a time that is found, records are arranged in its order, and of one time as they are placed. -/
theorem arrangePlaced_of_find? {c : Column} (hfind : columns.find? Column.isTime = some c)
    (hrows : rows.Pairwise fun r s => r.2 < s.2) : (arrangePlaced columns rows).Pairwise (ComesBefore c.name) := by
  unfold arrangePlaced
  rw [hfind]
  refine (pairwise_mergeSort_stable (fun _ _ _ => ?_) (fun _ _ => ?_) hrows).imp fun h => ?_
  · exact timeLe_trans
  · exact timeLe_total _ _
  · exact comesBefore_of_timeLe h.1 h.2

theorem arrangePlaced_of_timeless (h : ∀ c ∈ columns, c.isTime = false) : arrangePlaced columns rows = rows := by
  unfold arrangePlaced
  rw [List.find?_eq_none.mpr fun c hc => by simp [h c hc]]

theorem pairwise_zipIdx : records.zipIdx.Pairwise fun r s => r.2 < s.2 := by
  rw [← List.pairwise_map (f := Prod.snd), List.zipIdx_map_snd]
  exact List.pairwise_lt_range'

end Parts

/-! ## One partition -/

/-- Whether lists are the groups of items by texts, in the order of these and each in an order of its own. -/
structure AreGroups {α : Type} (key : α → List String) (before : α → α → Prop) (items : List α)
    (parts : List (List α)) : Prop where
  perm : parts.flatten.Perm items
  nonempty : ∀ part ∈ parts, part ≠ []
  key_eq : ∀ part ∈ parts, ∀ a ∈ part, ∀ b ∈ part, key a = key b
  ordered : parts.Pairwise fun part later => ∀ a ∈ part, ∀ b ∈ later, key a < key b
  arranged : ∀ part ∈ parts, part.Pairwise before

section Groups

variable {α : Type} {key : α → List String} {before : α → α → Prop} {items : List α} {parts others : List (List α)}

/-- Laid end to end, groups are cut apart again where the texts change. -/
theorem AreGroups.splitBy_flatten (h : AreGroups key before items parts) :
    parts.flatten.splitBy (fun a b => key a = key b) = parts := by
  refine List.splitBy_flatten (fun hnil => h.nonempty [] hnil rfl) (fun part hpart => ?_) ?_
  · refine List.Pairwise.isChain (List.pairwise_iff_forall_sublist.mpr fun {a b} hpair => decide_eq_true ?_)
    exact h.key_eq part hpart a (hpair.subset (by simp)) b (hpair.subset (by simp))
  · refine List.Pairwise.isChain (h.ordered.imp_of_mem fun {part later} hpart hlater hlt => ?_)
    refine ⟨h.nonempty part hpart, h.nonempty later hlater, decide_eq_false fun heq => ?_⟩
    exact List.lt_irrefl _ (heq ▸ hlt _ (List.getLast_mem _) _ (List.head_mem _))

/-- Groups that are put behind each other are in the order of their keys, and within a key in their own. -/
theorem AreGroups.pairwise_flatten (h : AreGroups key before items parts) :
    parts.flatten.Pairwise fun a b => key a < key b ∨ key a = key b ∧ before a b := by
  refine List.pairwise_flatten.mpr ⟨fun part hpart => ?_, h.ordered.imp fun hlt a ha b hb => .inl (hlt a ha b hb)⟩
  exact (h.arranged part hpart).imp_of_mem fun ha hb hbefore => .inr ⟨h.key_eq part hpart _ ha _ hb, hbefore⟩

/-- Items have their groups in one way only. -/
theorem AreGroups.eq (hasymm : ∀ a b, before a b → ¬before b a) (h : AreGroups key before items parts)
    (hothers : AreGroups key before items others) : parts = others := by
  have hflatten : parts.flatten = others.flatten := by
    refine List.Perm.eq_of_pairwise (fun a b _ _ hab hba => ?_) h.pairwise_flatten hothers.pairwise_flatten
      (h.perm.trans hothers.perm.symm)
    rcases hab with hlt | ⟨heq, hbefore⟩
    · rcases hba with hgt | ⟨heq, -⟩
      · exact absurd hgt (List.lt_asymm hlt)
      · exact absurd hlt (heq ▸ List.lt_irrefl _)
    · rcases hba with hgt | ⟨-, hafter⟩
      · exact absurd hgt (heq ▸ List.lt_irrefl _)
      · exact absurd hafter (hasymm a b hbefore)
  rw [← h.splitBy_flatten, hflatten, hothers.splitBy_flatten]

end Groups

section Unique

variable {q : CompiledQuery} {records : List Record} {parts others : List (List (Record × Nat))} {time : String}
  {before : Record × Nat → Record × Nat → Prop} {r s : Record × Nat}

theorem ComesBefore.asymm (h : ComesBefore time r s) : ¬ComesBefore time s r := by
  unfold ComesBefore at h ⊢
  cases hr : (r.1.value time).number? <;> cases hs : (s.1.value time).number? <;> simp [hr, hs] at h ⊢ <;> omega

/-- The parts of a result group its rows by the texts of their tags. -/
theorem SeriesParts.areGroups (h : SeriesParts q records parts) (harranged : ∀ part ∈ parts, part.Pairwise before) :
    AreGroups (fun r => (q.tagsAmong (sharedNames records)).map r.1.tagText) before records.zipIdx parts where
  perm := h.perm
  nonempty := h.nonempty
  key_eq part hpart r hr s hs := by
    have hmem : ∀ t ∈ part, t ∈ records.zipIdx := fun t ht =>
      h.perm.mem_iff.mp (List.mem_flatten_of_mem hpart ht)
    exact List.map_inj_left.mpr ((h.share_iff r (hmem r hr) s (hmem s hs)).mp ⟨part, hpart, hr, hs⟩)
  ordered := h.ordered
  arranged := harranged

/-- **Records are parted into series in one way only.** -/
theorem SeriesParts.eq (h : SeriesParts q records parts) (hothers : SeriesParts q records others) : parts = others := by
  by_cases htimes : ∃ name, HasTimes q records name
  · obtain ⟨time, htime, harranged⟩ := h.by_time htimes
    obtain ⟨time', htime', harranged'⟩ := hothers.by_time htimes
    rw [← htime.eq htime'] at harranged'
    exact (h.areGroups harranged).eq (fun _ _ => ComesBefore.asymm) (hothers.areGroups harranged')
  · exact (h.areGroups (h.by_place htimes)).eq (fun _ _ => Nat.lt_asymm) (hothers.areGroups (hothers.by_place htimes))

end Unique

/-! ## Results -/

/-- The records of a result as they are shown. -/
def QueryResult.prepared (result : QueryResult) : List Record := result.records.map Record.prepare

section Results

variable {f : Form} {q : CompiledQuery} {result : QueryResult} {records : List Record} {frames : List Frame}

theorem QueryResult.ascending_of_mem_prepared {r : Record} (h : r ∈ result.prepared) : Fields.Ascending r := by
  obtain ⟨raw, hraw, rfl⟩ := List.mem_map.mp h
  obtain ⟨row, _, rfl⟩ := List.mem_map.mp hraw
  exact Record.ascending_prepare ascending_recordOf

/-- Records have frames exactly if all values of metrics are such. -/
theorem exists_shapeSeries_iff (hascending : ∀ r ∈ records, Fields.Ascending r) :
    (∃ frames, shapeSeries f q records = .ok frames) ↔
      ∀ r ∈ records, ∀ name ∈ sharedNames records, (q.metric? name).isSome = true →
        (r.value name).isMetric = true := by
  rw [exists_shapeSeries_iff_fieldValue, sharedColumns_eq hascending]
  refine forall₂_congr fun r _ => ?_
  rw [List.forall_mem_map]
  refine forall₂_congr fun name _ => ?_
  exact Column.exists_fieldValue_iff.trans (imp_congr_right fun _ => exists_metricNumber_iff)

/-- The frames of records show their parts. -/
theorem shows_of_shapeSeries (hascending : ∀ r ∈ records, Fields.Ascending r)
    (h : shapeSeries f q records = .ok frames) :
    List.Forall₂ (fun part frame =>
        frame.Shows (seriesTitle f q (q.tagsAmong (sharedNames records)) (part.map Prod.fst))
          (kindAmong q records false) (sharedNames records) (part.map Prod.fst))
      (placedParts (sharedColumns q records) (sharedTags q records) records.zipIdx) frames := by
  rw [shapeSeries_eq] at h
  rw [← sharedTags_eq]
  have hseries : List.Forall₂ (fun rows frame =>
        frame.Shows (seriesTitle f q (sharedTags q records) rows) (kindAmong q records false) (sharedNames records)
          rows)
      ((seriesOf (sharedTags q records) records).map (arranged (sharedColumns q records))) frames := by
    rw [List.forall₂_map_left_iff]
    exact (mapM_eq_ok_iff_forall₂.mp h).imp fun _ _ => shows_of_seriesFrame hascending
  have hplaced : (placedParts (sharedColumns q records) (sharedTags q records) records.zipIdx).map (List.map Prod.fst) =
      (seriesOf (sharedTags q records) records).map (arranged (sharedColumns q records)) := by
    rw [map_placedParts, List.zipIdx_map_fst]
  rwa [← hplaced, List.forall₂_map_left_iff] at hseries

/-- The placed parts are those of series. -/
theorem seriesParts_placedParts (hascending : ∀ r ∈ records, Fields.Ascending r) :
    SeriesParts q records (placedParts (sharedColumns q records) (sharedTags q records) records.zipIdx) where
  perm := placedParts_flatten_perm
  nonempty _ := placedParts_nonempty
  share_iff r hr s hs := by
    rw [placedParts_share_iff hr hs, tagTexts_eq, tagTexts_eq, sharedTags_eq]
    exact List.map_inj_left
  ordered := by
    have hordered : (placedParts (sharedColumns q records) (sharedTags q records) records.zipIdx).Pairwise _ :=
      placedParts_ordered
    simpa only [tagTexts_eq, sharedTags_eq] using hordered
  by_time htime := by
    obtain ⟨name, hname⟩ := htime
    obtain ⟨d, hd, hdtime, -⟩ := (hasTimes_iff hascending).mp hname
    obtain ⟨c, hfind⟩ := Option.isSome_iff_exists.mp (List.find?_isSome.mpr ⟨d, hd, hdtime⟩)
    refine ⟨c.name, isFirstTime_of_find? hascending hfind, fun part hpart => ?_⟩
    obtain ⟨r, -, rfl⟩ := mem_placedParts.mp hpart
    exact arrangePlaced_of_find? hfind (pairwise_zipIdx.filter _)
  by_place hnone part hpart := by
    have htimeless : ∀ c ∈ sharedColumns q records, c.isTime = false := fun c hc =>
      Bool.eq_false_iff.mpr fun htime => hnone ⟨c.name, (hasTimes_iff hascending).mpr ⟨c, hc, htime, rfl⟩⟩
    obtain ⟨r, -, rfl⟩ := mem_placedParts.mp hpart
    rw [arrangePlaced_of_timeless htimeless]
    exact pairwise_zipIdx.filter _

/-- The frames of a result partition its rows. -/
theorem seriesPartition_of_shapeSeries (hascending : ∀ r ∈ records, Fields.Ascending r)
    (h : shapeSeries f q records = .ok frames) :
    SeriesPartition f q records (placedParts (sharedColumns q records) (sharedTags q records) records.zipIdx)
      frames where
  toSeriesParts := seriesParts_placedParts hascending
  shows := shows_of_shapeSeries hascending h
  length_values := (shows_of_shapeSeries hascending h).imp fun part frame hshows => by
    simpa only [List.length_map] using hshows.length_values
  sum_length := by
    rw [← List.length_flatten, placedParts_flatten_perm.length_eq, List.length_zipIdx]

/-- **Series partition the result.** A result is drawn as series exactly if all values of its metrics are such, and is
refused otherwise. The frames then show the parts of a partition of its rows. -/
theorem shapeFrames_partition (hseries : isSeries f q = true) :
    ((∃ frames, shapeFrames result q f = .ok frames) ↔
      ∀ r ∈ result.prepared, ∀ name ∈ sharedNames result.prepared, (q.metric? name).isSome = true →
        (r.value name).isMetric = true) ∧
    result.prepared.length = result.rows.length ∧
    ∀ frames, shapeFrames result q f = .ok frames → ∃ parts, SeriesPartition f q result.prepared parts frames := by
  rw [shapeFrames_eq hseries]
  have hascending : ∀ r ∈ result.prepared, Fields.Ascending r := fun r => QueryResult.ascending_of_mem_prepared
  refine ⟨exists_shapeSeries_iff hascending, ?_, fun frames h => ⟨_, seriesPartition_of_shapeSeries hascending h⟩⟩
  rw [QueryResult.prepared, QueryResult.records, List.length_map, List.length_map]

/-- Rows of two series, the first of them with its times out of order: the last row of the result and then the first,
and the row between them in a frame of its own. -/
theorem shapeFrames_partition_two :
    let q : CompiledQuery :=
      { sql := "SELECT time, side, Sum(byte) FROM t GROUP BY time, side", tags := [], metrics := [⟨"byte", 1, []⟩] }
    let result : QueryResult := ⟨["time", "side", "byte"],
      [[.int 120, .text "c", .int 2], [.int 60, .text "s", .text "5"], [.int 60, .text "c", .null]]⟩
    isSeries (Form.new .trafficQuery) q = true ∧
      ∃ frames parts, shapeFrames result q (Form.new .trafficQuery) = .ok frames ∧
        SeriesPartition (Form.new .trafficQuery) q result.prepared parts frames ∧
        parts.map (List.map Prod.snd) = [[2, 0], [1]] ∧ frames.length = 2 := by
  intro q result
  have hseries : isSeries (Form.new .trafficQuery) q = true := by decide
  obtain ⟨hshaped, -, hpartition⟩ := @shapeFrames_partition (Form.new .trafficQuery) q result hseries
  obtain ⟨frames, hframes⟩ := hshaped.mpr (by decide)
  obtain ⟨parts, hparts⟩ := hpartition frames hframes
  have hplaces : parts.map (List.map Prod.snd) = [[2, 0], [1]] := by
    let late : Record := [("byte", .int 2), ("side", .text "c"), ("time", .int 120)]
    let other : Record := [("byte", .text "5"), ("side", .text "s"), ("time", .int 60)]
    let early : Record := [("byte", .null), ("side", .text "c"), ("time", .int 60)]
    have hgroups : groupOn (fun r => tagTexts (sharedTags q result.prepared) r.1) result.prepared.zipIdx =
        [(["c"], [(late, 0), (early, 2)]), (["s"], [(other, 1)])] := rfl
    have hfind : (sharedColumns q result.prepared).find? Column.isTime = some ⟨"time", .time⟩ := rfl
    have htexts : textsLe ["c"] ["s"] = true := by decide
    have htimes : timeLe (timeOf? "time" late) (timeOf? "time" early) = false := by decide
    rw [hparts.toSeriesParts.eq (seriesParts_placedParts fun _ => QueryResult.ascending_of_mem_prepared), placedParts,
      groupsByTexts, hgroups]
    simp [arrangePlaced, hfind, List.mergeSort, List.MergeSort.Internal.splitInTwo, htexts, htimes]
  refine ⟨hseries, frames, parts, hframes, hparts, hplaces, ?_⟩
  rw [← hparts.shows.length_eq, ← List.length_map (f := List.map Prod.snd), hplaces]
  rfl

end Results

end PanelQuery
