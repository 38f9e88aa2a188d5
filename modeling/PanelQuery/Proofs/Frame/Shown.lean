import PanelQuery.Proofs.Frame.Series

/-!
# What frames show

The columns of records are those of the first of them, and what a column is depends on its name and on the value there:
it is a tag (`CompiledQuery.tagsAmong`), a time (`HasTimes`), a metric, or plain text. The frame of records has a field
for each name, of the kind that this gives (`kindAmong`), with what stands for the values of the records
(`FieldKind.Shows`). A field has the name of its column, but in the frame of a series a metric bears the name of the
series (`seriesTitle`).
-/

namespace PanelQuery

/-! ## Tags and times -/

/-- The text of a tag in a record: its value as it is shown, and nothing where it is missing. -/
def Record.tagText (r : Record) (tag : String) : String :=
  match Fields.get? tag r with
  | none => ""
  | some (.text s) => s
  | some value => value.compress

/-- The names of records, which are those of the first. -/
def sharedNames (records : List Record) : List String := (records.head?.map Fields.names).getD []

/-- Whether records have times of a name: it is one of a time, and the first record has a number there. -/
def HasTimes (q : CompiledQuery) (records : List Record) (name : String) : Prop :=
  q.IsTimeNamed name ∧ ∃ first ∈ records.head?, (first.value name).number?.isSome = true

section Names

variable {q : CompiledQuery} {tags : List String} {records : List Record} {r : Record} {name : String}

instance : Decidable (HasTimes q records name) :=
  inferInstanceAs (Decidable
    ((_ = none ∧ _ = true) ∧ ∃ first ∈ records.head?, (first.value name).number?.isSome = true))

/-- Records are told apart by what their tags are shown as. -/
theorem tagTexts_eq : tagTexts tags r = tags.map r.tagText := by
  refine List.map_congr_left fun tag _ => ?_
  unfold Record.tagText
  cases Fields.get? tag r with
  | none => rfl
  | some value => cases value <;> rfl

/-- The tags of records are among their names. -/
theorem sharedTags_eq : sharedTags q records = q.tagsAmong (sharedNames records) := by
  cases records with
  | nil => rfl
  | cons first rest => exact tagsOf_eq q first

theorem mem_names_of_number? (h : (r.value name).number?.isSome = true) : name ∈ Fields.names r := by
  rw [← Fields.isSome_get?_iff]
  unfold Record.value at h
  cases hget : Fields.get? name r with
  | none => rw [hget] at h; cases h
  | some value => rfl

/-- The columns of records are those of their names, by the values in the first record. -/
theorem sharedColumns_eq (hascending : ∀ r ∈ records, Fields.Ascending r) : sharedColumns q records =
    (sharedNames records).map fun name => Column.of q name ((records.head?.getD []).value name) := by
  cases records with
  | nil => rfl
  | cons first rest => exact columnsOf_eq (hascending first List.mem_cons_self)

/-- A column is the time exactly if the records have times of its name. -/
theorem isTime_of_iff_hasTimes :
    (Column.of q name ((records.head?.getD []).value name)).isTime = true ↔ HasTimes q records name := by
  rw [Column.isTime_of_iff, HasTimes]
  cases records with
  | nil => simp [Record.value, Fields.get?, Json.number?]
  | cons first rest => simp

theorem mem_sharedNames_of_hasTimes (h : HasTimes q records name) : name ∈ sharedNames records := by
  obtain ⟨-, first, hfirst, hnumber⟩ := h
  rw [sharedNames, Option.mem_def.mp hfirst]
  exact mem_names_of_number? hnumber

/-- The names of times are those of the columns of times. -/
theorem hasTimes_iff (hascending : ∀ r ∈ records, Fields.Ascending r) :
    HasTimes q records name ↔ ∃ c ∈ sharedColumns q records, c.isTime = true ∧ c.name = name := by
  rw [sharedColumns_eq hascending]
  constructor
  · intro h
    exact ⟨_, List.mem_map_of_mem (mem_sharedNames_of_hasTimes h), isTime_of_iff_hasTimes.mpr h, rfl⟩
  · rintro ⟨c, hc, htime, rfl⟩
    obtain ⟨name, -, rfl⟩ := List.mem_map.mp hc
    exact isTime_of_iff_hasTimes.mp htime

end Names

/-! ## Fields -/

/-- What stands in a field for a value: milliseconds for a time, a number, or a text. -/
inductive FieldKind.Shows : FieldKind → Json → Json → Prop where
  | time {value : Json} {n : Number} (h : value.number? = some n) :
    Shows .time value (.int (n.toDouble * Double.ofInt 1000).toInt64)
  | noTime {value : Json} (h : value.number? = none) : Shows .time value .null
  | null : Shows .number .null .null
  | number (n : Number) : Shows .number (.number n) (.double n.toDouble)
  | numeral {s : String} {x : Double} (h : Decimal.read? (Text.trim s) = some x) : Shows .number (.text s) (.double x)
  | text (s : String) : Shows .text (.text s) (.text s)
  | compact {value : Json} (h : ∀ s, value ≠ .text s) : Shows .text value (.text value.compress)

/-- The kind of the field of a name: numbers for a metric, though a table shows one of maps as text, times for a time,
and text for anything else. -/
def kindAmong (q : CompiledQuery) (records : List Record) (inTable : Bool) (name : String) : FieldKind :=
  match q.metric? name with
  | some metric => if inTable = true ∧ metric.kind = 7 then .text else .number
  | none => if HasTimes q records name then .time else .text

/-- The name of the field of a name in the frame of a series. A metric bears the name of the series, with its own behind
it where metrics are told apart. -/
def seriesTitle (f : Form) (q : CompiledQuery) (tags : List String) (rows : List Record) (name : String) : String :=
  if (q.metric? name).isSome then
    if showsMetrics f q then seriesName f.aliasName tags (rows.head?.getD []) ++ "-" ++ name
    else seriesName f.aliasName tags (rows.head?.getD [])
  else name

/-- Whether a field shows what records have under a name: it has one value for each record, in their order. -/
structure FrameField.Shows (field : FrameField) (title : String) (kind : FieldKind) (name : String)
    (rows : List Record) : Prop where
  name_eq : field.name = title
  kind_eq : field.kind = kind
  values : List.Forall₂ (fun r x => kind.Shows (r.value name) x) rows field.values

/-- Whether a frame shows records: one field for each name. -/
def Frame.Shows (frame : Frame) (titleOf : String → String) (kindOf : String → FieldKind) (names : List String)
    (rows : List Record) : Prop :=
  List.Forall₂ (fun name field => field.Shows (titleOf name) (kindOf name) name rows) names frame.fields

section Shows

variable {f : Form} {q : CompiledQuery} {tags : List String} {records rows : List Record} {frame : Frame}
  {field : FrameField} {name title : String} {inTable : Bool} {titleOf : String → String} {kindOf : String → FieldKind}

/-- A metric is read as the number that a field of numbers shows for it. -/
theorem metricNumber_eq_ok_iff {value x : Json} :
    metricNumber name value = .ok x ↔ FieldKind.Shows .number value x := by
  constructor
  · intro h
    unfold metricNumber at h
    cases value with
    | null => cases h; exact .null
    | number n => cases h; exact .number n
    | text s =>
      cases hread : Decimal.read? (Text.trim s) with
      | none => simp [hread] at h
      | some d =>
        simp only [hread] at h
        cases h
        exact .numeral hread
    | bool b => cases h
    | array items => cases h
    | object fields => cases h
  · rintro (_ | _ | _ | n | hread)
    · rfl
    · rfl
    · simp [metricNumber, hread]

theorem fieldValue_time_iff {c : Column} {value x : Json} :
    c.fieldValue .time value = .ok x ↔ FieldKind.Shows .time value x := by
  have hmillis : c.fieldValue .time value = .ok (timeMillis value) := rfl
  rw [hmillis, Except.ok.injEq, timeMillis]
  constructor
  · rintro rfl
    cases hn : value.number? with
    | none => exact .noTime hn
    | some n => exact .time hn
  · rintro (hn | hn)
    · rw [hn]
    · rw [hn]

theorem fieldValue_text_iff {c : Column} {value x : Json} :
    c.fieldValue .text value = .ok x ↔ FieldKind.Shows .text value x := by
  have hshown : c.fieldValue .text value = .ok (.text value.shown) := rfl
  rw [hshown, Except.ok.injEq]
  constructor
  · rintro rfl
    cases value with
    | text s => exact .text s
    | null | bool | number | array | object => exact .compact nofun
  · rintro (_ | _ | _ | _ | _ | s | hother)
    · rfl
    · cases value with
      | text s => exact absurd rfl (hother s)
      | null | bool | number | array | object => rfl

/-- The values of a field stand for those of its column. -/
theorem Column.fieldValue_eq_ok_iff {c : Column} {kind : FieldKind} {value x : Json} (hkind : kind ≠ .other) :
    c.fieldValue kind value = .ok x ↔ kind.Shows value x := by
  cases kind with
  | time => exact fieldValue_time_iff
  | number =>
    have hnumber : c.fieldValue .number value = metricNumber c.name value := rfl
    rw [hnumber, metricNumber_eq_ok_iff]
  | text => exact fieldValue_text_iff
  | other => exact absurd rfl hkind

/-- Every column has a field of times, numbers or texts. -/
theorem Column.fieldKind_ne_other {c : Column} : c.fieldKind inTable ≠ .other := by
  unfold fieldKind
  cases c.role with
  | metric metric => dsimp only; split <;> nofun
  | time | tag | text => nofun

/-- A column is that of a metric exactly if its name is one. -/
theorem Column.isMetric_of (q : CompiledQuery) (name : String) (value : Json) :
    (Column.of q name value).isMetric = (q.metric? name).isSome := by
  unfold Column.of Column.isMetric
  cases q.metric? name <;> cases Text.contains name "time" <;> cases value.number? <;> rfl

/-- The field of a column in a series is named by its name alone. -/
theorem Column.nameInSeries_of {value : Json} :
    (Column.of q name value).nameInSeries f q tags rows = seriesTitle f q tags rows name := by
  unfold nameInSeries seriesTitle
  rw [isMetric_of]
  rfl

theorem Column.fieldKind_of_not_isMetric {c : Column} (h : c.isMetric = false) :
    c.fieldKind inTable = if c.isTime then .time else .text := by
  unfold isMetric at h
  unfold fieldKind isTime
  cases hrole : c.role with
  | metric metric => simp [hrole] at h
  | time | tag | text => rfl

/-- A column is of the kind that its name and the first value under it give. -/
theorem Column.fieldKind_of :
    (Column.of q name ((records.head?.getD []).value name)).fieldKind inTable = kindAmong q records inTable name := by
  unfold kindAmong
  cases hmetric : q.metric? name with
  | some metric => simp [Column.of, fieldKind, hmetric]
  | none =>
    rw [fieldKind_of_not_isMetric (by rw [isMetric_of, hmetric]; rfl)]
    simp only [isTime_of_iff_hasTimes]

/-- A field shows the column that it is made for. -/
theorem shows_of_field
    (h : (Column.of q name ((records.head?.getD []).value name)).field title inTable rows = .ok field) :
    field.Shows title (kindAmong q records inTable name) name rows := by
  obtain ⟨values, hvalues, hfield⟩ := bind_eq_ok_iff.mp h
  rw [← Except.ok.inj hfield]
  refine ⟨rfl, Column.fieldKind_of, (mapM_eq_ok_iff_forall₂.mp hvalues).imp fun r x hx => ?_⟩
  rw [← Column.fieldKind_of]
  exact (Column.fieldValue_eq_ok_iff Column.fieldKind_ne_other).mp hx

/-- The frame of a series shows its records as they are arranged. -/
theorem shows_of_seriesFrame (hascending : ∀ r ∈ records, Fields.Ascending r)
    (h : seriesFrame f q (sharedColumns q records) tags rows = .ok frame) :
    frame.Shows (seriesTitle f q tags (arranged (sharedColumns q records) rows)) (kindAmong q records false)
      (sharedNames records) (arranged (sharedColumns q records) rows) := by
  rw [seriesFrame_eq] at h
  generalize arranged (sharedColumns q records) rows = shown at h ⊢
  obtain ⟨fields, hfields, hframe⟩ := bind_eq_ok_iff.mp h
  rw [sharedColumns_eq hascending, mapM_eq_ok_iff_forall₂, List.forall₂_map_left_iff] at hfields
  rw [← Except.ok.inj hframe]
  refine hfields.imp fun name field hfield => ?_
  rw [Column.nameInSeries_of] at hfield
  exact shows_of_field hfield

/-- A table shows its records as they come, and what is under a name in a field of that name. -/
theorem shows_of_tableFrame (hascending : ∀ r ∈ records, Fields.Ascending r)
    (h : tableFrame f q (sharedColumns q records) rows = .ok frame) :
    frame.Shows id (kindAmong q records true) (sharedNames records) rows := by
  obtain ⟨fields, hfields, hframe⟩ := bind_eq_ok_iff.mp h
  rw [sharedColumns_eq hascending, mapM_eq_ok_iff_forall₂, List.forall₂_map_left_iff] at hfields
  rw [← Except.ok.inj hframe]
  exact hfields.imp fun name field hfield => shows_of_field hfield

/-- All fields of a frame have one length, that of what it shows. -/
theorem Frame.Shows.length_values {names : List String} (h : frame.Shows titleOf kindOf names rows) :
    ∀ field ∈ frame.fields, field.values.length = rows.length := by
  unfold Shows at h
  generalize frame.fields = fields at h
  induction h with
  | nil => exact nofun
  | cons hshows _ ih => exact List.forall_mem_cons.mpr ⟨hshows.values.length_eq.symm, ih⟩

end Shows

end PanelQuery
