import PanelQuery.Flame
import PanelQuery.Proofs.Grouping
import PanelQuery.Proofs.Json.Reordering

/-!
# Details of spans

What is found in the details of a span (`Flame.spanDetail`). Under a label are the details of the last category with
that label (`group?_spanDetail`), and these are the entries of one map, or the values of columns that are no maps: a
column has all its values there, whatever the row, exactly if it goes together with the others
(`forall_isShownIn_categoryDetails_iff`). Among the metrics the entries of maps go before the other metrics
(`get?_metricDetails`).
-/

namespace PanelQuery.Flame

/-! ## Groups -/

def group? (detail : Json) (label : String) : Option Fields := (detail.field? label).bind Json.fields?

def groupLabel (category : String) : String := if category.isEmpty then "N/A" else category

/-- The columns of each category with that label, in the order of the categories. -/
def groupsUnder (tags : List DetailTag) (label : String) : List (List DetailTag) :=
  ((groupOn DetailTag.category tags).filter fun group => groupLabel group.1 == label).map Prod.snd

/-- The columns with details under a label; of several categories with that label the last one counts. -/
def membersUnder (tags : List DetailTag) (label : String) : List DetailTag := (groupsUnder tags label).getLast?.getD []

section Groups

variable {row : Record} {tags : List DetailTag} {metrics : List ReturnMetric} {label : String} {t : DetailTag}

theorem field?_spanDetail : (spanDetail row tags metrics).field? label =
    ((groupsUnder tags label).map (fun members => Json.object (categoryDetails row members)) ++
      if "Metrics" = label then [Json.object (metricDetails row metrics)] else []).getLast? := by
  have hgroups := Fields.valuesOf_map label (fun group : String × List DetailTag => groupLabel group.1)
    (fun group => Json.object (categoryDetails row group.2)) (groupOn DetailTag.category tags)
  rw [spanDetail, Json.record, Json.field?, Fields.get?_sorted, Fields.valuesOf_append, Fields.valuesOf_cons,
    Fields.valuesOf_nil, groupsUnder, List.map_map]
  exact congrArg (fun values => (values ++ if "Metrics" = label then [_] else []).getLast?) hgroups

theorem group?_metrics : group? (spanDetail row tags metrics) "Metrics" = some (metricDetails row metrics) := by
  rw [group?, field?_spanDetail, if_pos rfl, List.getLast?_concat]
  rfl

/-- Under the label of a column are the details of the last category with that label. -/
theorem group?_spanDetail (ht : t ∈ tags) (hlabel : groupLabel t.category ≠ "Metrics") :
    group? (spanDetail row tags metrics) (groupLabel t.category) =
      some (categoryDetails row (membersUnder tags (groupLabel t.category))) := by
  have hgroup : tags.filter (fun other => other.category = t.category) ∈ groupsUnder tags (groupLabel t.category) := by
    refine List.mem_map.mpr ⟨(t.category, _), List.mem_filter.mpr ⟨?_, beq_self_eq_true (groupLabel t.category)⟩, rfl⟩
    exact (mem_groupOn DetailTag.category tags).mpr ⟨⟨t, ht, rfl⟩, rfl⟩
  rw [group?, field?_spanDetail, if_neg (Ne.symm hlabel), List.append_nil, List.getLast?_map, membersUnder,
    List.getLast?_eq_some_getLast (List.ne_nil_of_mem hgroup)]
  rfl

end Groups

/-! ## Columns -/

/-- Whether details have all values of a column: every entry of a map, or else the value as it is shown. -/
structure DetailTag.IsShownIn (t : DetailTag) (row : Record) (details : Fields) : Prop where
  map : t.isMap = true → ∀ name value, Fields.get? name (mapEntries (Fields.get? t.resultColumn row)) = some value →
    Fields.get? name details = some (shownDetail (some value))
  plain : t.isMap = false → Fields.get? t.resultColumn details = some (shownDetail (Fields.get? t.resultColumn row))

/-- Whether columns of one group show a column: the group is the same map, or none of the two is a map. -/
def DetailTag.IsAmong (t : DetailTag) : List DetailTag → Prop
  | [] => False
  | first :: rest =>
    t.isMap = first.isMap ∧
      if t.isMap then t.resultColumn = first.resultColumn else ∃ u ∈ first :: rest, u.resultColumn = t.resultColumn

section Columns

variable {row : Record} {t first : DetailTag} {members rest : List DetailTag}

theorem get?_categoryDetails_map (h : first.isMap = true) (name : String) :
    Fields.get? name (categoryDetails row (first :: rest)) =
      (Fields.get? name (mapEntries (Fields.get? first.resultColumn row))).map
        fun value => shownDetail (some value) := by
  rw [categoryDetails, if_pos h]
  exact Fields.get?_mapValues name (fun value => shownDetail (some value)) _

theorem get?_categoryDetails_plain (h : first.isMap = false) (name : String) :
    Fields.get? name (categoryDetails row (first :: rest)) =
      if ∃ u ∈ first :: rest, u.resultColumn = name then some (shownDetail (Fields.get? name row)) else none := by
  rw [categoryDetails, if_neg (Bool.eq_false_iff.mp h), Fields.get?_sorted]
  exact Fields.getLast?_valuesOf_map name DetailTag.resultColumn (fun column => shownDetail (Fields.get? column row)) _

/-- A row in which a column has a map with one entry, and nothing else. -/
def rowOfEntry (column name : String) : Record := [(column, .object [(name, .text "")])]

theorem get?_rowOfEntry (column name : String) :
    Fields.get? name (mapEntries (Fields.get? column (rowOfEntry column name))) = some (.text "") := by
  simp [rowOfEntry, Fields.get?, mapEntries]

theorem get?_rowOfEntry_of_ne {column other name : String} (h : column ≠ other) :
    Fields.get? other (rowOfEntry column name) = none := by
  rw [rowOfEntry, Fields.get?, if_neg h, Fields.get?]

theorem not_isShownIn_nil (t : DetailTag) : ¬∀ row, t.IsShownIn row [] := by
  intro h
  cases hmap : t.isMap with
  | true =>
    have hentry := (h (rowOfEntry t.resultColumn "")).map hmap "" (.text "") (get?_rowOfEntry _ _)
    cases hentry
  | false =>
    have hplain := (h []).plain hmap
    cases hplain

/-- A map that always has all its entries among columns is the first of them. -/
theorem eq_first_of_forall_isShownIn (hmap : t.isMap = true)
    (h : ∀ row, t.IsShownIn row (categoryDetails row (first :: rest))) :
    first.isMap = true ∧ t.resultColumn = first.resultColumn := by
  cases hfirst : first.isMap with
  | true =>
    refine ⟨rfl, Decidable.byContradiction fun hne => ?_⟩
    have hentry := (h (rowOfEntry t.resultColumn "")).map hmap "" (.text "") (get?_rowOfEntry _ _)
    rw [get?_categoryDetails_map hfirst, get?_rowOfEntry_of_ne hne] at hentry
    cases hentry
  | false =>
    -- an entry with another name than its column has no value among columns that are no maps
    have hne : t.resultColumn ≠ t.resultColumn ++ "x" := fun heq => by
      have hlength := congrArg String.length heq
      simp [String.length_append] at hlength
    have hentry := (h (rowOfEntry t.resultColumn (t.resultColumn ++ "x"))).map hmap _ (.text "") (get?_rowOfEntry _ _)
    rw [get?_categoryDetails_plain hfirst, get?_rowOfEntry_of_ne hne] at hentry
    split at hentry <;> cases hentry

/-- A column that is no map and has its value in an empty row is one of the columns, and they are no maps. -/
theorem mem_columns_of_isShownIn (hplain : t.isMap = false)
    (h : t.IsShownIn [] (categoryDetails [] (first :: rest))) :
    first.isMap = false ∧ ∃ u ∈ first :: rest, u.resultColumn = t.resultColumn := by
  have hvalue := h.plain hplain
  cases hfirst : first.isMap with
  | true =>
    rw [get?_categoryDetails_map hfirst] at hvalue
    cases hvalue
  | false =>
    rw [get?_categoryDetails_plain hfirst] at hvalue
    split at hvalue
    · next hexists => exact ⟨rfl, hexists⟩
    · cases hvalue

theorem DetailTag.IsAmong.isShownIn (h : t.IsAmong (first :: rest)) (row : Record) :
    t.IsShownIn row (categoryDetails row (first :: rest)) := by
  obtain ⟨hkind, hcolumn⟩ := h
  refine ⟨fun hmap name value hentry => ?_, fun hplain => ?_⟩
  · rw [if_pos hmap] at hcolumn
    rw [get?_categoryDetails_map (hkind ▸ hmap), ← hcolumn, hentry, Option.map_some]
  · rw [hplain, if_neg Bool.false_ne_true] at hcolumn
    rw [get?_categoryDetails_plain (hkind ▸ hplain), if_pos hcolumn]

/-- A column has all its values in the details of a group, whatever the row, exactly if it is among those columns. -/
theorem forall_isShownIn_categoryDetails_iff :
    (∀ row, t.IsShownIn row (categoryDetails row members)) ↔ t.IsAmong members := by
  cases members with
  | nil => exact iff_of_false (not_isShownIn_nil t) id
  | cons first rest =>
    refine ⟨fun h => ?_, DetailTag.IsAmong.isShownIn⟩
    cases hmap : t.isMap with
    | true =>
      obtain ⟨hfirst, hcolumn⟩ := eq_first_of_forall_isShownIn hmap h
      exact ⟨hmap.trans hfirst.symm, by rwa [if_pos hmap]⟩
    | false =>
      obtain ⟨hfirst, hcolumn⟩ := mem_columns_of_isShownIn hmap (h [])
      exact ⟨hmap.trans hfirst.symm, by rwa [if_neg (Bool.eq_false_iff.mp hmap)]⟩

end Columns

/-! ## Metrics -/

/-- The entries of all map metrics, in the order of the metrics. -/
def mapMetricEntries (row : Record) (metrics : List ReturnMetric) : Fields :=
  (metrics.filter fun m => m.kind == Metric.mapKind).flatMap fun m => mapEntries (Fields.get? m.name row)

section Metrics

variable {row : Record} {metrics : List ReturnMetric} {m : ReturnMetric} {name : String} {value : Json}

def plainMetrics (metrics : List ReturnMetric) : List ReturnMetric :=
  metrics.filter fun m => !(m.kind == Metric.mapKind)

/-- Under a name is the last entry with that name, or else the value of a metric that is no map. -/
theorem get?_metricDetails : Fields.get? name (metricDetails row metrics) =
    (Fields.valuesOf name (mapMetricEntries row metrics)).getLast?.or
      (if ∃ m ∈ plainMetrics metrics, m.name = name then some (Record.value row name) else none) := by
  have hplain := Fields.getLast?_valuesOf_map name ReturnMetric.name (Record.value row) (plainMetrics metrics)
  rw [metricDetails, Fields.get?_sorted, Fields.valuesOf_append, List.getLast?_append]
  exact congrArg _ hplain

theorem mem_plainMetrics_iff : m ∈ plainMetrics metrics ↔ m ∈ metrics ∧ m.kind ≠ Metric.mapKind := by
  simp [plainMetrics]

/-- A metric that is no map keeps its value exactly if no map has another one as the last entry of that name. -/
theorem get?_metricDetails_plain (hm : m ∈ metrics) (hkind : m.kind ≠ Metric.mapKind) :
    Fields.get? m.name (metricDetails row metrics) = some (Record.value row m.name) ↔
      ∀ entry ∈ (Fields.valuesOf m.name (mapMetricEntries row metrics)).getLast?, entry = Record.value row m.name := by
  rw [get?_metricDetails, if_pos ⟨m, mem_plainMetrics_iff.mpr ⟨hm, hkind⟩, rfl⟩]
  cases (Fields.valuesOf m.name (mapMetricEntries row metrics)).getLast? <;> simp

/-- The only entry of a name in a map metric is kept if no other map metric has one of that name. -/
theorem get?_metricDetails_entry (hm : m ∈ metrics) (hkind : m.kind = Metric.mapKind)
    (hentry : Fields.only? name (mapEntries (Fields.get? m.name row)) = some (some value))
    (hothers : ∀ other ∈ metrics, other.kind = Metric.mapKind → other.name ≠ m.name →
      Fields.get? name (mapEntries (Fields.get? other.name row)) = none) :
    Fields.get? name (metricDetails row metrics) = some value := by
  have hown : Fields.valuesOf name (mapEntries (Fields.get? m.name row)) = [value] := by
    rw [Fields.only?_eq] at hentry
    exact Fields.eq_toList_of_sole? hentry
  have hmaps : ∀ other, other ∈ metrics.filter (fun m => m.kind == Metric.mapKind) ↔
      other ∈ metrics ∧ other.kind = Metric.mapKind := by simp
  have hmem : value ∈ Fields.valuesOf name (mapMetricEntries row metrics) := by
    rw [mapMetricEntries, Fields.valuesOf_flatMap]
    exact List.mem_flatMap.mpr ⟨m, (hmaps m).mpr ⟨hm, hkind⟩, hown ▸ List.mem_singleton_self value⟩
  have hvalues : ∀ entry ∈ Fields.valuesOf name (mapMetricEntries row metrics), entry = value := by
    intro entry hvalue
    rw [mapMetricEntries, Fields.valuesOf_flatMap] at hvalue
    obtain ⟨other, hother, hvalue⟩ := List.mem_flatMap.mp hvalue
    by_cases hname : other.name = m.name
    · rw [hname, hown] at hvalue
      exact List.mem_singleton.mp hvalue
    · have hnone := hothers other ((hmaps other).mp hother).1 ((hmaps other).mp hother).2 hname
      rw [Fields.get?_eq_head?, List.head?_eq_none_iff] at hnone
      rw [hnone] at hvalue
      cases hvalue
  rw [get?_metricDetails, List.getLast?_eq_some_getLast (List.ne_nil_of_mem hmem),
    hvalues _ (List.getLast_mem (List.ne_nil_of_mem hmem)), Option.some_or]

end Metrics

/-! ## All details -/

/-- **What the details of a span have.** A column of the table has all its values under the label of its category,
whatever the row and the metrics, exactly if the label is not that of the metrics and the column is among those whose
details are under it: they are the same map, or the columns of one category without maps. A metric that is no map keeps
its value exactly if no map metric has another one as the last entry of that name, and so does the entry of a map metric
if no other map metric has one of that name. -/
theorem spanDetail_shows_iff (table : Table) :
    (∀ t ∈ detailTags table,
      (∀ row metrics, ∃ details,
        group? (spanDetail row (detailTags table) metrics) (groupLabel t.category) = some details ∧
          t.IsShownIn row details) ↔
      groupLabel t.category ≠ "Metrics" ∧
        t.IsAmong (membersUnder (detailTags table) (groupLabel t.category))) ∧
    ∀ row metrics, ∃ details, group? (spanDetail row (detailTags table) metrics) "Metrics" = some details ∧
      ∀ m ∈ metrics,
        (m.kind ≠ Metric.mapKind → (Fields.get? m.name details = some (Record.value row m.name) ↔
          ∀ entry ∈ (Fields.valuesOf m.name (mapMetricEntries row metrics)).getLast?,
            entry = Record.value row m.name)) ∧
        (m.kind = Metric.mapKind → ∀ name value,
          Fields.only? name (mapEntries (Fields.get? m.name row)) = some (some value) →
          (∀ other ∈ metrics, other.kind = Metric.mapKind → other.name ≠ m.name →
            Fields.get? name (mapEntries (Fields.get? other.name row)) = none) →
          Fields.get? name details = some value) := by
  refine ⟨fun t ht => ⟨fun h => ?_, fun h row metrics => ?_⟩, fun row metrics => ?_⟩
  · have hlabel : groupLabel t.category ≠ "Metrics" := by
      intro hlabel
      refine not_isShownIn_nil t fun row => ?_
      obtain ⟨details, hdetails, hshown⟩ := h row []
      rw [hlabel, group?_metrics] at hdetails
      cases hdetails
      exact hshown
    refine ⟨hlabel, forall_isShownIn_categoryDetails_iff.mp fun row => ?_⟩
    obtain ⟨details, hdetails, hshown⟩ := h row []
    rw [group?_spanDetail ht hlabel] at hdetails
    cases hdetails
    exact hshown
  · exact ⟨_, group?_spanDetail ht h.1, forall_isShownIn_categoryDetails_iff.mpr h.2 row⟩
  · exact ⟨_, group?_metrics, fun m hm => ⟨get?_metricDetails_plain hm, fun hkind name value hentry hothers =>
      get?_metricDetails_entry hm hkind hentry hothers⟩⟩

/-- Of two maps in one category the second is not shown, and a metric gives way to an entry with its name. -/
theorem spanDetail_shows_not :
    let mapTag (name : String) : Tag := ⟨name, name, name, "", "map", "Tag", [], false, []⟩
    let table : Table := ⟨[mapTag "k8s.label", mapTag "cloud.tag"], [], []⟩
    let t : DetailTag := ⟨"Tag", "cloud.tag", true, false⟩
    let row : Record := [("cpu", .int 1), ("metrics", .object [("cpu", .int 2), ("mem", .int 3)])]
    let cpu : ReturnMetric := ⟨"cpu", 3, []⟩
    let maps : ReturnMetric := ⟨"metrics", Metric.mapKind, []⟩
    t ∈ detailTags table ∧
      (¬∀ row metrics, ∃ details,
        group? (spanDetail row (detailTags table) metrics) (groupLabel t.category) = some details ∧
          t.IsShownIn row details) ∧
      ∃ details, group? (spanDetail row (detailTags table) [cpu, maps]) "Metrics" = some details ∧
        Fields.get? "cpu" details ≠ some (.int 1) ∧ Fields.get? "mem" details = some (.int 3) := by
  intro mapTag table t row cpu maps
  have ht : t ∈ detailTags table := by decide
  have hmembers : membersUnder (detailTags table) (groupLabel t.category) = [⟨"Tag", "k8s.label", true, false⟩, t] := by
    decide
  obtain ⟨hcolumns, hmetrics⟩ := spanDetail_shows_iff table
  refine ⟨ht, fun hshown => ?_, ?_⟩
  · have hamong := ((hcolumns t ht).mp hshown).2
    rw [hmembers] at hamong
    exact absurd (show t.resultColumn = "k8s.label" from hamong.2) (by decide)
  · obtain ⟨details, hdetails, hvalues⟩ := hmetrics row [cpu, maps]
    refine ⟨details, hdetails, fun hcpu => ?_, ?_⟩
    · have hentry := ((hvalues cpu List.mem_cons_self).1 (by decide)).mp hcpu (.int 2) rfl
      cases hentry
    · refine (hvalues maps (List.mem_cons_of_mem _ List.mem_cons_self)).2 rfl "mem" (.int 3) rfl fun other hother => ?_
      rcases List.mem_cons.mp hother with rfl | hother
      · exact fun hkind => absurd hkind (by decide)
      · cases List.mem_singleton.mp hother
        exact fun _ hne => absurd rfl hne

end PanelQuery.Flame
