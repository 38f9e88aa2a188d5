import PanelQuery.Proofs.Frame.Columns
import PanelQuery.Proofs.Frame.Sorting
import PanelQuery.Proofs.Results

/-!
# Series of records

`shapeSeries` draws prepared records as series. Of records with the same names, one of which is that of their time
(`Alike`), the first decides whether there is a column of time (`Alike.isTime_iff`), and all of them whether there are
frames at all (`Alike.exists_shapeSeries_iff`). Where the times tell the records of each series apart, two orders give
the same frames if both start with a time (`Alike.shapeSeries_eq_of_some`) or no record has one
(`Alike.shapeSeries_eq_of_none`).
-/

namespace PanelQuery

/-! ## Series -/

/-- The records of a series as its frame shows them. -/
def arranged (columns : List Column) (records : List Record) : List Record :=
  match columns.find? Column.isTime with
  | some column => sortByTime column.name records
  | none => records

/-- The frames of prepared records that are drawn as series. -/
def shapeSeries (f : Form) (q : CompiledQuery) : List Record → Except QuerierError (List Frame)
  | [] => .ok []
  | first :: rest =>
    (seriesOf (tagsOf q first) (first :: rest)).mapM (seriesFrame f q (columnsOf q first) (tagsOf q first))

def Column.isMetric (c : Column) : Bool :=
  match c.role with
  | .metric _ => true
  | _ => false

/-- The name of the field of a column in the frame of a series. A metric bears the name of the series, with its own
behind it where metrics are told apart. -/
def Column.nameInSeries (c : Column) (f : Form) (q : CompiledQuery) (tags : List String) (rows : List Record) :
    String :=
  if c.isMetric then
    if showsMetrics f q then seriesName f.aliasName tags (rows.head?.getD []) ++ "-" ++ c.name
    else seriesName f.aliasName tags (rows.head?.getD [])
  else c.name

/-- The columns of records, which are those of the first. -/
def sharedColumns (q : CompiledQuery) (records : List Record) : List Column :=
  (records.head?.map (columnsOf q)).getD []

/-- The tags among the columns of records. -/
def sharedTags (q : CompiledQuery) (records : List Record) : List String :=
  ((sharedColumns q records).filter Column.isTag).map Column.name

section Shaping

variable {f : Form} {q : CompiledQuery} {columns : List Column} {tags : List String} {records others : List Record}
  {first other : Record} {rest more : List Record}

theorem shapeSeries_eq : shapeSeries f q records =
    (seriesOf (sharedTags q records) records).mapM
      (seriesFrame f q (sharedColumns q records) (sharedTags q records)) := by
  cases records with
  | nil => simp [shapeSeries, seriesOf, groupOn, pure, Except.pure]
  | cons first rest => rfl

theorem seriesOf_singleton {tags : List String} {r : Record} : seriesOf tags [r] = [[r]] := by
  have hgroups : groupOn (tagTexts tags) [r] = [(tagTexts tags r, [r])] := rfl
  rw [seriesOf, hgroups, List.mergeSort_singleton]
  rfl

/-- A single record is a series of its own. -/
theorem shapeSeries_singleton {r : Record} : shapeSeries f q [r] =
    (seriesFrame f q (columnsOf q r) (tagsOf q r) [r]).map fun frame => [frame] := by
  rw [shapeSeries, seriesOf_singleton, List.mapM_cons, List.mapM_nil]
  cases seriesFrame f q (columnsOf q r) (tagsOf q r) [r] <;> rfl

/-- A grouped result is drawn as series. -/
theorem shapeFrames_eq {result : QueryResult} (h : isSeries f q = true) :
    shapeFrames result q f = shapeSeries f q (result.records.map Record.prepare) := by
  unfold shapeFrames
  cases result.records.map Record.prepare with
  | nil => rfl
  | cons first rest => exact if_pos h

/-- A frame shows its records as they are arranged. -/
theorem seriesFrame_arranged :
    seriesFrame f q columns tags (arranged columns records) = seriesFrame f q columns tags records := by
  unfold seriesFrame arranged
  cases columns.find? Column.isTime with
  | none => rfl
  | some column => simp only [sortByTime_sortByTime]

/-- Arranging neither loses nor adds records. -/
theorem mem_arranged {r : Record} : r ∈ arranged columns records ↔ r ∈ records := by
  unfold arranged
  split
  · exact List.mem_mergeSort
  · rfl

/-- The frames are the same if the columns and the arranged series are. -/
theorem shapeSeries_eq_of_perm (hperm : (first :: rest).Perm (other :: more))
    (hcolumns : columnsOf q first = columnsOf q other)
    (harranged : ∀ texts,
      arranged (columnsOf q first) ((first :: rest).filter fun r => tagTexts (tagsOf q first) r = texts) =
        arranged (columnsOf q first) ((other :: more).filter fun r => tagTexts (tagsOf q first) r = texts)) :
    shapeSeries f q (first :: rest) = shapeSeries f q (other :: more) := by
  have htags : tagsOf q first = tagsOf q other := by rw [tagsOf, tagsOf, hcolumns]
  have hframe : seriesFrame f q (columnsOf q first) (tagsOf q first) =
      seriesFrame f q (columnsOf q first) (tagsOf q first) ∘ arranged (columnsOf q first) :=
    funext fun records => seriesFrame_arranged.symm
  simp only [shapeSeries]
  rw [← hcolumns, ← htags, hframe, ← List.mapM_map, ← List.mapM_map, seriesOf_map_eq_of_perm hperm harranged]

end Shaping

/-! ## Records of one result -/

/-- Records with the same names, one of which is that of their time. -/
structure Alike (q : CompiledQuery) (time : String) (names : List String) (records : List Record) : Prop where
  ascending : ∀ r ∈ records, Fields.Ascending r
  names_eq : ∀ r ∈ records, Fields.names r = names
  time_iff : ∀ name, name ∈ names ∧ q.IsTimeNamed name ↔ name = time

/-- The tag values that say which series a record is part of. -/
def seriesKey (q : CompiledQuery) (r : Record) : List String := tagTexts (tagsOf q r) r

section Alike

variable {f : Form} {q : CompiledQuery} {time : String} {names : List String} {records others : List Record}
  {first other r s : Record} {rest more : List Record}

/-- Records that are alike have the same tags. -/
theorem Alike.tags_eq (h : Alike q time names records) (hr : r ∈ records) (hs : s ∈ records) :
    tagsOf q r = tagsOf q s :=
  tagsOf_congr ((h.names_eq r hr).trans (h.names_eq s hs).symm)

/-- Records that are alike have the same columns if both have a time or neither has. -/
theorem Alike.columns_eq (h : Alike q time names records) (hr : r ∈ records) (hs : s ∈ records)
    (hsome : (timeOf? time r).isSome = (timeOf? time s).isSome) : columnsOf q r = columnsOf q s := by
  refine columnsOf_congr (h.ascending r hr) (h.ascending s hs) ((h.names_eq r hr).trans (h.names_eq s hs).symm) ?_
  intro name hname htime
  rw [h.names_eq r hr] at hname
  rw [(h.time_iff name).mp ⟨hname, htime⟩]
  exact hsome

/-- A record has a column of time exactly if its time is a number. -/
theorem Alike.isTime_iff (h : Alike q time names records) (hr : r ∈ records) {column : Column} :
    column ∈ columnsOf q r ∧ column.isTime = true ↔
      column = Column.of q time (r.value time) ∧ (timeOf? time r).isSome = true := by
  rw [columnsOf_eq (h.ascending r hr), h.names_eq r hr, timeOf?, Option.isSome_map, List.mem_map]
  constructor
  · rintro ⟨⟨name, hname, rfl⟩, htime⟩
    obtain ⟨hnamed, hsome⟩ := Column.isTime_of_iff.mp htime
    obtain rfl := (h.time_iff name).mp ⟨hname, hnamed⟩
    exact ⟨rfl, hsome⟩
  · rintro ⟨rfl, hsome⟩
    obtain ⟨hname, hnamed⟩ := (h.time_iff time).mpr rfl
    exact ⟨⟨time, hname, rfl⟩, Column.isTime_of_iff.mpr ⟨hnamed, hsome⟩⟩

/-- Where the first record has a time, records are sorted by it. -/
theorem Alike.arranged_of_some (h : Alike q time names records) (hr : r ∈ records)
    (hsome : (timeOf? time r).isSome = true) (rows : List Record) :
    arranged (columnsOf q r) rows = sortByTime time rows := by
  unfold arranged
  cases hfind : (columnsOf q r).find? Column.isTime with
  | some column =>
    have hcolumn := (h.isTime_iff hr).mp ⟨List.mem_of_find?_eq_some hfind, List.find?_some hfind⟩
    rw [hcolumn.1]
    rfl
  | none =>
    have hcolumn := (h.isTime_iff hr).mpr ⟨rfl, hsome⟩
    exact absurd hcolumn.2 (List.find?_eq_none.mp hfind _ hcolumn.1)

/-- Where the first record has no time, records stay as they are. -/
theorem Alike.arranged_of_none (h : Alike q time names records) (hr : r ∈ records) (hnone : timeOf? time r = none)
    (rows : List Record) : arranged (columnsOf q r) rows = rows := by
  unfold arranged
  cases hfind : (columnsOf q r).find? Column.isTime with
  | some column =>
    have hcolumn := (h.isTime_iff hr).mp ⟨List.mem_of_find?_eq_some hfind, List.find?_some hfind⟩
    rw [hnone] at hcolumn
    cases hcolumn.2
  | none => rfl

/-! ## Orders that make no difference -/

/-- Records of one series that are told apart by their times. -/
def ToldApart (q : CompiledQuery) (time : String) (records : List Record) : Prop :=
  ∀ r ∈ records, ∀ s ∈ records, seriesKey q r = seriesKey q s → timeOf? time r = timeOf? time s → r = s

theorem Alike.eq_of_mem_series (h : Alike q time names records) (hapart : ToldApart q time records)
    (hfirst : first ∈ records) {texts : List String}
    (hr : r ∈ records.filter fun r => tagTexts (tagsOf q first) r = texts)
    (hs : s ∈ records.filter fun r => tagTexts (tagsOf q first) r = texts)
    (htime : timeOf? time r = timeOf? time s) : r = s := by
  obtain ⟨hr, hrtexts⟩ := List.mem_filter.mp hr
  obtain ⟨hs, hstexts⟩ := List.mem_filter.mp hs
  refine hapart r hr s hs ?_ htime
  rw [seriesKey, seriesKey, h.tags_eq hr hfirst, h.tags_eq hs hfirst, of_decide_eq_true hrtexts,
    of_decide_eq_true hstexts]

/-- Two orders that both start with a number for a time give the same frames. -/
theorem Alike.shapeSeries_eq_of_some (h : Alike q time names records) (hapart : ToldApart q time records)
    (hperm : records.Perm others) (hrecords : ∀ r ∈ records.head?, (timeOf? time r).isSome = true)
    (hothers : ∀ r ∈ others.head?, (timeOf? time r).isSome = true) :
    shapeSeries f q records = shapeSeries f q others := by
  match records, others with
  | [], others => rw [hperm.nil_eq]
  | records, [] => rw [hperm.symm.nil_eq]
  | first :: rest, other :: more =>
    have hfirst := hrecords first rfl
    have hother := hothers other rfl
    have hmem : other ∈ first :: rest := hperm.mem_iff.mpr List.mem_cons_self
    have hcolumns := h.columns_eq List.mem_cons_self hmem (hfirst.trans hother.symm)
    refine shapeSeries_eq_of_perm hperm hcolumns fun texts => ?_
    rw [h.arranged_of_some List.mem_cons_self hfirst, h.arranged_of_some List.mem_cons_self hfirst]
    exact sortByTime_eq_of_perm (hperm.filter _) fun r hr s hs => h.eq_of_mem_series hapart List.mem_cons_self hr hs

/-- Without any time all orders give the same frames. -/
theorem Alike.shapeSeries_eq_of_none (h : Alike q time names records) (hapart : ToldApart q time records)
    (hperm : records.Perm others) (hnone : ∀ r ∈ records, timeOf? time r = none) :
    shapeSeries f q records = shapeSeries f q others := by
  match records, others with
  | [], others => rw [hperm.nil_eq]
  | records, [] => rw [hperm.symm.nil_eq]
  | first :: rest, other :: more =>
    have hfirst := hnone first List.mem_cons_self
    have hmem : other ∈ first :: rest := hperm.mem_iff.mpr List.mem_cons_self
    have hsome : (timeOf? time first).isSome = (timeOf? time other).isSome := by rw [hfirst, hnone other hmem]
    refine shapeSeries_eq_of_perm hperm (h.columns_eq List.mem_cons_self hmem hsome) fun texts => ?_
    rw [h.arranged_of_none List.mem_cons_self hfirst, h.arranged_of_none List.mem_cons_self hfirst]
    -- the records of a series are all the same, so that no order tells them apart
    have hany : ∀ rows : List Record, rows.Pairwise fun _ _ => True :=
      fun _ => List.pairwise_of_forall fun _ _ => trivial
    refine List.Perm.eq_of_pairwise (fun r s hr hs _ _ => ?_) (hany _) (hany _) (hperm.filter _)
    have hs := (hperm.filter _).mem_iff.mpr hs
    refine h.eq_of_mem_series hapart List.mem_cons_self hr hs ?_
    rw [hnone r (List.mem_filter.mp hr).1, hnone s (List.mem_filter.mp hs).1]

end Alike

/-! ## Which records have frames -/

/-- Whether the metrics of a record can be read. -/
def HasMetrics (q : CompiledQuery) (r : Record) : Prop :=
  ∀ name ∈ Fields.names r, (q.metric? name).isSome = true → ∃ x, metricNumber name (r.value name) = .ok x

section Fields

variable {f : Form} {q : CompiledQuery} {columns : List Column} {tags : List String} {records : List Record}

/-- Only the values of metrics may be refused. -/
theorem Column.exists_fieldValue_iff {name : String} {held value : Json} :
    (∃ x, (Column.of q name held).fieldValue ((Column.of q name held).fieldKind false) value = .ok x) ↔
      ((q.metric? name).isSome = true → ∃ x, metricNumber name value = .ok x) := by
  unfold Column.of Column.fieldKind Column.fieldValue
  cases q.metric? name with
  | some metric => simp
  | none => cases Text.contains name "time" <;> cases held.number? <;> simp

/-- A column has a field exactly if all of its values can be shown. -/
theorem Column.exists_field_iff {c : Column} {name : String} :
    (∃ field, c.field name false records = .ok field) ↔
      ∀ r ∈ records, ∃ x, c.fieldValue (c.fieldKind false) (r.value c.name) = .ok x := by
  rw [← exists_mapM_eq_ok_iff]
  unfold Column.field
  constructor
  · rintro ⟨field, h⟩
    obtain ⟨values, hvalues, -⟩ := bind_eq_ok_iff.mp h
    exact ⟨values, hvalues⟩
  · rintro ⟨values, hvalues⟩
    exact ⟨_, bind_eq_ok_iff.mpr ⟨values, hvalues, rfl⟩⟩

theorem Column.kind_of_field {c : Column} {name : String} {field : FrameField}
    (h : c.field name false records = .ok field) : field.kind = c.fieldKind false := by
  obtain ⟨values, -, hfield⟩ := bind_eq_ok_iff.mp h
  rw [← Except.ok.inj hfield]

theorem Column.fieldKind_eq_time_iff {c : Column} : c.fieldKind false = .time ↔ c.isTime = true := by
  obtain ⟨name, role⟩ := c
  cases role <;> simp [Column.fieldKind, Column.isTime]

/-- A frame has a field for each column, of the arranged records. -/
theorem seriesFrame_eq : seriesFrame f q columns tags records =
    (columns.mapM fun c =>
      c.field (c.nameInSeries f q tags (arranged columns records)) false (arranged columns records)) >>= fun fields =>
        .ok { fields, info := frameMeta q f } := by
  obtain ⟨nameOf, hframe, hname⟩ : ∃ nameOf : Column → String,
      (seriesFrame f q columns tags records =
        (columns.mapM fun c => c.field (nameOf c) false (arranged columns records)) >>= fun fields =>
          .ok { fields, info := frameMeta q f }) ∧
        ∀ c, nameOf c = c.nameInSeries f q tags (arranged columns records) := by
    refine ⟨_, rfl, fun c => ?_⟩
    unfold Column.nameInSeries Column.isMetric
    cases c.role <;> rfl
  rw [hframe, funext hname]

/-- A series has a frame exactly if all of its values can be shown. -/
theorem exists_seriesFrame_iff : (∃ frame, seriesFrame f q columns tags records = .ok frame) ↔
    ∀ c ∈ columns, ∀ r ∈ records, ∃ x, c.fieldValue (c.fieldKind false) (r.value c.name) = .ok x := by
  have hfields : (∃ frame, seriesFrame f q columns tags records = .ok frame) ↔ ∃ fields, (columns.mapM fun c =>
      c.field (c.nameInSeries f q tags (arranged columns records)) false (arranged columns records)) = .ok fields := by
    rw [seriesFrame_eq]
    constructor
    · rintro ⟨frame, h⟩
      obtain ⟨fields, hfields, -⟩ := bind_eq_ok_iff.mp h
      exact ⟨fields, hfields⟩
    · rintro ⟨fields, hfields⟩
      exact ⟨_, bind_eq_ok_iff.mpr ⟨fields, hfields, rfl⟩⟩
  rw [hfields, exists_mapM_eq_ok_iff]
  simp only [Column.exists_field_iff, mem_arranged]

/-- A frame has a field of times exactly if there is a column of them. -/
theorem exists_time_mem_fields_iff {frame : Frame} (h : seriesFrame f q columns tags records = .ok frame) :
    (∃ field ∈ frame.fields, field.kind = .time) ↔ ∃ c ∈ columns, c.isTime = true := by
  rw [seriesFrame_eq] at h
  obtain ⟨fields, hfields, hinfo⟩ := bind_eq_ok_iff.mp h
  rw [← Except.ok.inj hinfo]
  constructor
  · rintro ⟨field, hfield, hkind⟩
    obtain ⟨c, hc, hof⟩ := (mem_of_mapM_eq_ok hfields).mp hfield
    exact ⟨c, hc, Column.fieldKind_eq_time_iff.mp ((Column.kind_of_field hof).symm.trans hkind)⟩
  · rintro ⟨c, hc, htime⟩
    obtain ⟨field, hof⟩ := exists_mapM_eq_ok_iff.mp ⟨fields, hfields⟩ c hc
    refine ⟨field, (mem_of_mapM_eq_ok hfields).mpr ⟨c, hc, hof⟩, ?_⟩
    rw [Column.kind_of_field hof, Column.fieldKind_eq_time_iff.mpr htime]

end Fields

section Outcomes

variable {f : Form} {q : CompiledQuery} {time : String} {names : List String} {records : List Record}
  {first : Record} {rest : List Record}

/-- Records have frames exactly if no column refuses a value. -/
theorem exists_shapeSeries_iff_fieldValue : (∃ frames, shapeSeries f q records = .ok frames) ↔
    ∀ r ∈ records, ∀ c ∈ sharedColumns q records, ∃ x, c.fieldValue (c.fieldKind false) (r.value c.name) = .ok x := by
  rw [shapeSeries_eq, exists_mapM_eq_ok_iff]
  simp only [exists_seriesFrame_iff]
  constructor
  · intro hseries r hr c hc
    exact hseries _ (mem_seriesOf.mpr ⟨r, hr, rfl⟩) c hc r (mem_filter_own _ hr)
  · intro hvalues series hseries c hc r hr
    obtain ⟨s, -, rfl⟩ := mem_seriesOf.mp hseries
    exact hvalues r (List.mem_filter.mp hr).1 c hc

/-- Records have frames exactly if all their metrics can be read. -/
theorem Alike.exists_shapeSeries_iff (h : Alike q time names records) :
    (∃ frames, shapeSeries f q records = .ok frames) ↔ ∀ r ∈ records, HasMetrics q r := by
  rw [exists_shapeSeries_iff_fieldValue]
  cases records with
  | nil => simp
  | cons first rest =>
    have hcolumns : sharedColumns q (first :: rest) = names.map fun name => Column.of q name (first.value name) := by
      rw [← h.names_eq first List.mem_cons_self]
      exact columnsOf_eq (h.ascending first List.mem_cons_self)
    simp only [hcolumns, List.forall_mem_map, Column.exists_fieldValue_iff]
    refine forall₂_congr fun r hr => ?_
    rw [HasMetrics, h.names_eq r hr]
    rfl

/-- The frames of records have a field of times exactly if the first record has a number for its time. -/
theorem Alike.exists_time_iff (h : Alike q time names (first :: rest)) {frames : List Frame}
    (hframes : shapeSeries f q (first :: rest) = .ok frames) :
    (∃ frame ∈ frames, ∃ field ∈ frame.fields, field.kind = .time) ↔ (timeOf? time first).isSome = true := by
  have htime : (∃ c ∈ columnsOf q first, c.isTime = true) ↔ (timeOf? time first).isSome = true := by
    constructor
    · rintro ⟨c, hc⟩
      exact ((h.isTime_iff List.mem_cons_self).mp hc).2
    · exact fun hsome => ⟨_, (h.isTime_iff List.mem_cons_self).mpr ⟨rfl, hsome⟩⟩
  rw [← htime]
  constructor
  · rintro ⟨frame, hframe, hfield⟩
    obtain ⟨series, _, hof⟩ := (mem_of_mapM_eq_ok hframes).mp hframe
    exact (exists_time_mem_fields_iff hof).mp hfield
  · intro hcolumn
    obtain ⟨series, hseries⟩ : ∃ series, series ∈ seriesOf (tagsOf q first) (first :: rest) :=
      ⟨_, mem_seriesOf.mpr ⟨first, List.mem_cons_self, rfl⟩⟩
    obtain ⟨frame, hof⟩ := exists_mapM_eq_ok_iff.mp ⟨frames, hframes⟩ _ hseries
    exact ⟨frame, (mem_of_mapM_eq_ok hframes).mpr ⟨_, hseries, hof⟩, (exists_time_mem_fields_iff hof).mpr hcolumn⟩

end Outcomes

end PanelQuery
