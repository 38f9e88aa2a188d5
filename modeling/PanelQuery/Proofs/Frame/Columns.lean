import PanelQuery.Frame.Shape
import PanelQuery.Proofs.Json.Reordering

/-!
# Columns of records

A record is prepared by taking out its identifier and by putting columns under names without `time`. So what a prepared
record is named depends on the names of the record alone (`Record.names_prepare_congr`), and what is named like a time
is as it was (`Record.get?_prepare`). Of the values of a record, only those named like a time have a part in its columns
(`columnsOf_congr`).
-/

namespace PanelQuery

/-! ## Fields by name -/

namespace Fields

def names (fields : Fields) : List String := fields.map Prod.fst

section Lookup

variable {name other : String} {value held : Json} {fields others added : Fields}

theorem get?_put_self : ∀ {fields : Fields}, get? name (put name value fields) = some value
  | [] => by simp [put, get?]
  | (first, held) :: rest => by
    unfold put
    split
    · rw [get?, if_pos rfl]
    · split
      · rw [get?, if_pos rfl]
      · next hne => rw [get?, if_neg (Ne.symm hne), get?_put_self]

theorem get?_put_of_ne (h : other ≠ name) : ∀ {fields : Fields}, get? name (put other value fields) = get? name fields
  | [] => by simp [put, get?, h]
  | (first, held) :: rest => by
    unfold put
    split
    · rw [get?, if_neg h]
    · split
      · next he => rw [get?, get?, if_neg h, if_neg (he ▸ h)]
      · rw [get?, get?, get?_put_of_ne h]

theorem get?_erase_of_ne (h : other ≠ name) : ∀ {fields : Fields}, get? name (erase other fields) = get? name fields
  | [] => rfl
  | (first, held) :: rest => by
    have ih : get? name (erase other rest) = get? name rest := get?_erase_of_ne h
    simp only [erase] at ih ⊢
    by_cases hfirst : first = other
    · have hname : first ≠ name := hfirst ▸ h
      simp [hfirst, get?, h, ih]
    · simp [hfirst, get?, ih]

theorem get?_foldl_put_of_not_mem (h : name ∉ names added) :
    get? name (added.foldl (fun held field => put field.1 field.2 held) fields) = get? name fields := by
  induction added generalizing fields with
  | nil => rfl
  | cons field rest ih =>
    obtain ⟨hne, hrest⟩ := not_or.mp fun hmem => h (List.mem_cons.mpr hmem)
    rw [List.foldl_cons, ih hrest, get?_put_of_ne (Ne.symm hne)]

/-- Only the names of the fields have a value. -/
theorem isSome_get?_iff : ∀ {fields : Fields}, (get? name fields).isSome = true ↔ name ∈ names fields
  | [] => by simp [get?, names]
  | (first, held) :: rest => by
    rw [get?, names, List.map_cons, List.mem_cons]
    split
    · next h => simp [h]
    · next h => rw [isSome_get?_iff, or_iff_right (Ne.symm h)]; rfl

theorem mem_names_put :
    ∀ {fields : Fields}, name ∈ names (put other value fields) ↔ name = other ∨ name ∈ names fields
  | [] => by simp [put, names]
  | (first, held) :: rest => by
    have ih : name ∈ names (put other value rest) ↔ name = other ∨ name ∈ names rest := mem_names_put
    unfold put
    simp only [names] at ih ⊢
    split
    · simp only [List.map_cons, List.mem_cons]
    · split
      · next he => simp [he]
      · rw [List.map_cons, List.mem_cons, ih, List.map_cons, List.mem_cons, or_left_comm]

/-- Putting fields adds their names. -/
theorem mem_names_foldl_put : name ∈ names (added.foldl (fun held field => put field.1 field.2 held) fields) ↔
    name ∈ names added ∨ name ∈ names fields := by
  induction added generalizing fields with
  | nil => simp [names]
  | cons field rest ih =>
    rw [List.foldl_cons, ih, mem_names_put, or_left_comm, ← or_assoc]
    simp only [names, List.map_cons, List.mem_cons]

/-- In ascending fields every value is found under its name. -/
theorem get?_of_mem (hasc : Ascending fields) (h : (name, value) ∈ fields) : get? name fields = some value := by
  induction fields with
  | nil => cases h
  | cons field rest ih =>
    obtain ⟨first, held⟩ := field
    obtain ⟨hlt, hrest⟩ := List.pairwise_cons.mp hasc
    rcases List.mem_cons.mp h with h | h
    · cases h
      rw [get?, if_pos rfl]
    · rw [get?, if_neg (String.ne_of_lt (hlt _ h)), ih hrest h]

theorem ascending_erase (h : Ascending fields) : Ascending (erase name fields) := List.Pairwise.filter _ h

end Lookup

/-! Names do not depend on values. -/

section Names

variable {name : String} {value other : Json} {fields others added more : Fields}

/-- Which names there are after a field is put does not depend on the values. -/
theorem names_put_congr (value other : Json) :
    ∀ {fields others : Fields}, names fields = names others →
      names (put name value fields) = names (put name other others)
  | [], [], _ => rfl
  | (first, held) :: rest, (first', held') :: rest', h => by
    obtain ⟨rfl, hrest⟩ := List.cons.inj h
    unfold put
    split
    · exact congrArg (name :: ·) h
    · split
      · exact congrArg (name :: ·) hrest
      · exact congrArg (first :: ·) (names_put_congr value other hrest)

theorem names_erase_congr (h : names fields = names others) :
    names (erase name fields) = names (erase name others) := by
  have herase : ∀ fs : Fields, names (erase name fs) = (names fs).filter fun first => first != name := by
    intro fs
    rw [names, names, List.filter_map]
    rfl
  rw [herase, herase, h]

theorem names_foldl_put_congr (hadded : names added = names more) (h : names fields = names others) :
    names (added.foldl (fun held field => put field.1 field.2 held) fields) =
      names (more.foldl (fun held field => put field.1 field.2 held) others) := by
  induction added generalizing more fields others with
  | nil =>
    rw [List.map_eq_nil_iff.mp hadded.symm]
    exact h
  | cons field rest ih =>
    obtain ⟨field', rest', rfl, hname, hrest⟩ := List.map_eq_cons_iff.mp hadded.symm
    rw [List.foldl_cons, List.foldl_cons, hname]
    exact ih hrest.symm (names_put_congr _ _ h)

theorem isSome_get?_congr (h : names fields = names others) :
    (get? name fields).isSome = (get? name others).isSome := by
  rw [Bool.eq_iff_iff, isSome_get?_iff, isSome_get?_iff, h]

end Names

end Fields

/-! ## Prepared records -/

namespace Record

variable {r s : Record} {side : FlowEnd} {name : String}

/-- The columns that preparing a record puts, or takes out, are not named like a time. -/
theorem ne_of_contains_time {other : String} (h : Text.contains name "time" = true)
    (hother : Text.contains other "time" = false) : other ≠ name := by
  rintro rfl
  rw [h] at hother
  cases hother

/-- Which columns there are after the identifier is taken out does not depend on the values. -/
theorem names_withId_congr (h : Fields.names r = Fields.names s) :
    Fields.names (withId r) = Fields.names (withId s) := by
  have hsome : (Fields.get? idColumn r).isSome = (Fields.get? idColumn s).isSome := Fields.isSome_get?_congr h
  unfold withId
  cases hr : Fields.get? idColumn r <;> cases hs : Fields.get? idColumn s <;> simp [hr, hs] at hsome ⊢
  · exact h
  · exact Fields.names_put_congr _ _ (Fields.names_erase_congr h)

/-- Taking out the identifier leaves times alone. -/
theorem get?_withId (h : Text.contains name "time" = true) : Fields.get? name (withId r) = Fields.get? name r := by
  unfold withId
  split
  · rw [Fields.get?_put_of_ne (ne_of_contains_time h (by decide)),
      Fields.get?_erase_of_ne (ne_of_contains_time h (by decide))]
  · rfl

theorem ascending_withId (h : Fields.Ascending r) : Fields.Ascending (withId r) := by
  unfold withId
  split
  · exact Fields.put_ascending (Fields.ascending_erase h)
  · exact h

/-- The columns that are put for the resource at an end. -/
def resourceFields (r : Record) (side : FlowEnd) : Fields :=
  if has r (side.start ++ "node_type") = false then []
  else if has r ("gprocess" ++ side.ending) then processFields r side else groupFields r side

/-- The resource of an end is put field by field. -/
theorem withResource_eq :
    withResource r side = (resourceFields r side).foldl (fun held field => Fields.put field.1 field.2 held) r := by
  unfold withResource resourceFields
  cases has r (side.start ++ "node_type") <;> rfl

theorem names_resourceFields_congr (h : Fields.names r = Fields.names s) :
    Fields.names (resourceFields r side) = Fields.names (resourceFields s side) := by
  unfold resourceFields has
  rw [Fields.isSome_get?_congr h, Fields.isSome_get?_congr h]
  split
  · rfl
  · split <;> rfl

/-- No column that is put for a resource is one of a time. -/
theorem contains_time_of_mem_resourceFields (h : name ∈ Fields.names (resourceFields r side)) :
    Text.contains name "time" = false := by
  have hmem : name ∈ [side.start ++ "resource_type", side.start ++ "resource_id", side.start ++ "resource"] := by
    unfold resourceFields at h
    split at h
    · cases h
    · split at h
      · exact List.mem_cons_of_mem _ h
      · exact h
  have hnone : ∀ name ∈ [side.start ++ "resource_type", side.start ++ "resource_id", side.start ++ "resource"],
      Text.contains name "time" = false := by
    cases side <;> decide
  exact hnone name hmem

theorem names_withResource_congr (h : Fields.names r = Fields.names s) :
    Fields.names (withResource r side) = Fields.names (withResource s side) := by
  rw [withResource_eq, withResource_eq]
  exact Fields.names_foldl_put_congr (names_resourceFields_congr h) h

/-- Putting resources leaves times alone. -/
theorem get?_withResource (h : Text.contains name "time" = true) :
    Fields.get? name (withResource r side) = Fields.get? name r := by
  rw [withResource_eq]
  refine Fields.get?_foldl_put_of_not_mem fun hmem => ?_
  rw [contains_time_of_mem_resourceFields hmem] at h
  cases h

theorem ascending_withResource (h : Fields.Ascending r) : Fields.Ascending (withResource r side) := by
  rw [withResource_eq]
  exact Fields.ascending_foldl_put h

/-- What a prepared record is named depends on what the record is named. -/
theorem names_prepare_congr (h : Fields.names r = Fields.names s) :
    Fields.names (prepare r) = Fields.names (prepare s) :=
  names_withResource_congr (names_withResource_congr (names_withId_congr h))

/-- Preparing a record leaves alone what is named like a time. -/
theorem get?_prepare (h : Text.contains name "time" = true) : Fields.get? name (prepare r) = Fields.get? name r := by
  rw [prepare, withResources, get?_withResource h, get?_withResource h, get?_withId h]

/-- The columns of prepared records stay in order. -/
theorem ascending_prepare (h : Fields.Ascending r) : Fields.Ascending (prepare r) :=
  ascending_withResource (ascending_withResource (ascending_withId h))

end Record

/-- The time of a prepared record is that of the record. -/
theorem timeOf?_prepare {time : String} (h : Text.contains time "time" = true) (r : Record) :
    timeOf? time r.prepare = timeOf? time r := by
  rw [timeOf?, timeOf?, Record.value, Record.value, Record.get?_prepare h]

namespace QueryResult

variable {columns : List String} {row other : List Json} {name : String}

/-- Records are named by their columns. -/
theorem names_recordOf_congr (hrow : row.length = columns.length) (hother : other.length = columns.length) :
    Fields.names (recordOf columns row) = Fields.names (recordOf columns other) := by
  refine Fields.names_foldl_put_congr ?_ rfl
  simp only [Fields.names]
  rw [List.map_fst_zip (Nat.le_of_eq hrow.symm), List.map_fst_zip (Nat.le_of_eq hother.symm)]

theorem ascending_recordOf : Fields.Ascending (recordOf columns row) :=
  Fields.ascending_foldl_put List.Pairwise.nil

/-- A record has the columns of its row. -/
theorem mem_names_recordOf (hrow : row.length = columns.length) :
    name ∈ Fields.names (recordOf columns row) ↔ name ∈ columns := by
  rw [recordOf, Fields.sorted, Fields.mem_names_foldl_put]
  simp only [Fields.names]
  rw [List.map_fst_zip (Nat.le_of_eq hrow.symm)]
  simp

/-- The names of the prepared records of a result with these columns. -/
def preparedNames (columns : List String) : List String :=
  Fields.names (recordOf columns (columns.map fun _ => .null)).prepare

/-- What a prepared record is named depends on the columns alone. -/
theorem names_prepare_recordOf (hrow : row.length = columns.length) :
    Fields.names (recordOf columns row).prepare = preparedNames columns :=
  Record.names_prepare_congr (names_recordOf_congr hrow (List.length_map _))

/-- Preparing neither puts nor drops columns of times. -/
theorem mem_preparedNames (h : Text.contains name "time" = true) : name ∈ preparedNames columns ↔ name ∈ columns := by
  rw [preparedNames, ← Fields.isSome_get?_iff, Record.get?_prepare h, Fields.isSome_get?_iff,
    mem_names_recordOf (List.length_map _)]

end QueryResult

/-! ## Columns -/

/-- Whether a column is named like a time and is no metric. -/
def CompiledQuery.IsTimeNamed (q : CompiledQuery) (name : String) : Prop :=
  q.metric? name = none ∧ Text.contains name "time" = true

section Columns

variable {q : CompiledQuery} {name : String} {value other : Json} {r s : Record}

/-- A value decides on the role of its column only if that is named like a time, and there only by being a number. -/
theorem Column.of_congr (h : q.IsTimeNamed name → value.number?.isSome = other.number?.isSome) :
    Column.of q name value = Column.of q name other := by
  unfold Column.of
  cases hmetric : q.metric? name with
  | some metric => rfl
  | none =>
    cases htime : Text.contains name "time" with
    | true => rw [h ⟨hmetric, htime⟩]
    | false => rfl

/-- A column is the time if its name is one of a time and its value a number. -/
theorem Column.isTime_of_iff :
    (Column.of q name value).isTime = true ↔ q.IsTimeNamed name ∧ value.number?.isSome = true := by
  unfold Column.of Column.isTime CompiledQuery.IsTimeNamed
  cases q.metric? name <;> cases Text.contains name "time" <;> cases value.number? <;> simp

theorem Column.isTag_of (q : CompiledQuery) (name : String) (value : Json) :
    (Column.of q name value).isTag = ((q.metric? name).isNone && !Text.contains name "time") := by
  unfold Column.of Column.isTag
  cases q.metric? name <;> cases Text.contains name "time" <;> cases value.number? <;> rfl

/-- The columns of a record are read off name by name. -/
theorem columnsOf_eq (h : Fields.Ascending r) :
    columnsOf q r = (Fields.names r).map fun name => Column.of q name (r.value name) := by
  rw [columnsOf, Fields.names, List.map_map]
  refine List.map_congr_left fun (name, value) hmem => ?_
  show Column.of q name value = Column.of q name (r.value name)
  rw [Record.value, Fields.get?_of_mem h hmem]
  rfl

/-- Records of one form have the same columns if they agree on which of their times are numbers. -/
theorem columnsOf_congr (hr : Fields.Ascending r) (hs : Fields.Ascending s) (hnames : Fields.names r = Fields.names s)
    (htime : ∀ name ∈ Fields.names r, q.IsTimeNamed name → (timeOf? name r).isSome = (timeOf? name s).isSome) :
    columnsOf q r = columnsOf q s := by
  rw [columnsOf_eq hr, columnsOf_eq hs, ← hnames]
  refine List.map_congr_left fun name hmem => Column.of_congr fun hnamed => ?_
  simpa only [timeOf?, Option.isSome_map] using htime name hmem hnamed

/-- The names of the columns of a record that are tags. -/
def tagsOf (q : CompiledQuery) (r : Record) : List String := ((columnsOf q r).filter Column.isTag).map Column.name

/-- The tags among names: those that are no metric's and not named like a time. -/
def CompiledQuery.tagsAmong (q : CompiledQuery) (names : List String) : List String :=
  names.filter fun name => (q.metric? name).isNone && !Text.contains name "time"

/-- The tags among the columns of a record are those of its names. -/
theorem tagsOf_eq (q : CompiledQuery) (r : Record) : tagsOf q r = q.tagsAmong (Fields.names r) := by
  rw [tagsOf, columnsOf, CompiledQuery.tagsAmong, Fields.names, List.filter_map, List.filter_map, List.map_map]
  simp only [Function.comp_def, Column.isTag_of]
  rfl

/-- Which columns are tags depends on the names of a record. -/
theorem tagsOf_congr (hnames : Fields.names r = Fields.names s) : tagsOf q r = tagsOf q s := by
  rw [tagsOf_eq, tagsOf_eq, hnames]

end Columns

end PanelQuery
