import PanelQuery.Proofs.Frame.Partition
import PanelQuery.Proofs.Frame.RowOrder
import PanelQuery.Proofs.Json.Printed

/-!
# The columns of prepared records

Preparing a record takes out its identifier and puts columns, but which ones depends on what the record is named, not on
its values (`Record.mem_names_prepare`); the others are as they were (`Record.get?_prepare_of_not_isPut`). So all
prepared records of a decoded result have the same columns, those that are read off the first, and the frames are drawn
from values that the records have: no look-up misses (`QueryResult.prepared_columns_eq`).
-/

namespace PanelQuery

/-! ## Columns that are put -/

/-- Whether a column is put for the resource at an end of a flow, into a record with these columns. -/
def FlowEnd.Puts (side : FlowEnd) (columns : List String) (name : String) : Prop :=
  side.start ++ "node_type" ∈ columns ∧
    (name = side.start ++ "resource_id" ∨ name = side.start ++ "resource" ∨
      name = side.start ++ "resource_type" ∧ "gprocess" ++ side.ending ∉ columns)

/-- Whether preparing a record with these columns puts a column of that name. -/
def IsPut (columns : List String) (name : String) : Prop :=
  name = "_id" ∧ idColumn ∈ columns ∨ ∃ side : FlowEnd, side.Puts columns name

/-- Which columns are put depends on which there are. -/
theorem isPut_congr {columns others : List String} {name : String} (h : ∀ other, other ∈ columns ↔ other ∈ others) :
    IsPut columns name ↔ IsPut others name := by
  simp only [IsPut, FlowEnd.Puts, h]

namespace Record

variable {r : Record} {side : FlowEnd} {name : String} {columns others : List String}

theorem has_iff : has r name = true ↔ name ∈ Fields.names r := Fields.isSome_get?_iff

theorem names_resourceFields : Fields.names (resourceFields r side) =
    if side.start ++ "node_type" ∈ Fields.names r then
      if "gprocess" ++ side.ending ∈ Fields.names r then [side.start ++ "resource_id", side.start ++ "resource"]
      else [side.start ++ "resource_type", side.start ++ "resource_id", side.start ++ "resource"]
    else [] := by
  unfold resourceFields
  simp only [Bool.eq_false_iff, ne_eq, has_iff, ite_not]
  split
  · split <;> rfl
  · rfl

/-- The columns that are put for a resource depend on the columns alone. -/
theorem mem_names_resourceFields : name ∈ Fields.names (resourceFields r side) ↔ side.Puts (Fields.names r) name := by
  rw [names_resourceFields, FlowEnd.Puts]
  split
  · next hkind =>
    split
    · next hprocess => simp [hkind, hprocess]
    · next hprocess => simp [hkind, hprocess, or_assoc, or_comm, or_left_comm]
  · next hkind => simp [hkind]

theorem mem_names_withId : name ∈ Fields.names (withId r) ↔
    name ∈ Fields.names r ∧ name ≠ idColumn ∨ name = "_id" ∧ idColumn ∈ Fields.names r := by
  unfold withId
  cases hid : Fields.get? idColumn r with
  | none =>
    have hnot : idColumn ∉ Fields.names r := by
      rw [← Fields.isSome_get?_iff, hid]
      exact nofun
    have hne : name ∈ Fields.names r → name ≠ idColumn := fun hname heq => hnot (heq ▸ hname)
    simp only [hnot, and_false, or_false, and_iff_left_of_imp hne]
  | some id =>
    have hmem : idColumn ∈ Fields.names r := by
      rw [← Fields.isSome_get?_iff, hid]
      rfl
    have herase : name ∈ Fields.names (Fields.erase idColumn r) ↔ name ∈ Fields.names r ∧ name ≠ idColumn := by
      simp [Fields.names, Fields.erase]
    dsimp only
    rw [Fields.mem_names_put, herase, and_iff_left hmem, or_comm]

/-- Putting the resource of an end keeps all columns. -/
theorem mem_names_withResource :
    name ∈ Fields.names (withResource r side) ↔ side.Puts (Fields.names r) name ∨ name ∈ Fields.names r := by
  rw [withResource_eq, Fields.mem_names_foldl_put, mem_names_resourceFields]

/-- What is put at an end depends on whether two columns are there. -/
theorem puts_congr (hkind : side.start ++ "node_type" ∈ columns ↔ side.start ++ "node_type" ∈ others)
    (hprocess : "gprocess" ++ side.ending ∈ columns ↔ "gprocess" ++ side.ending ∈ others) :
    side.Puts columns name ↔ side.Puts others name := by
  rw [FlowEnd.Puts, FlowEnd.Puts, hkind, hprocess]

theorem puts_names_withId : side.Puts (Fields.names (withId r)) name ↔ side.Puts (Fields.names r) name := by
  have hkept : ∀ other : String, other ≠ idColumn → other ≠ "_id" →
      (other ∈ Fields.names (withId r) ↔ other ∈ Fields.names r) := fun other hid hput => by
    simp [mem_names_withId, hid, hput]
  refine puts_congr (hkept _ ?_ ?_) (hkept _ ?_ ?_) <;> cases side <;> decide

/-- What is put at one end does not decide on the other. -/
theorem puts_names_withResource :
    FlowEnd.server.Puts (Fields.names (withResource r .client)) name ↔ FlowEnd.server.Puts (Fields.names r) name := by
  have hkept : ∀ other : String, ¬FlowEnd.client.Puts (Fields.names r) other →
      (other ∈ Fields.names (withResource r .client) ↔ other ∈ Fields.names r) := fun other hput => by
    rw [mem_names_withResource, or_iff_right hput]
  refine puts_congr (hkept _ fun hput => ?_) (hkept _ fun hput => ?_)
  · rcases hput.2 with heq | heq | ⟨heq, -⟩ <;> exact absurd heq (by decide)
  · rcases hput.2 with heq | heq | ⟨heq, -⟩ <;> exact absurd heq (by decide)

/-- A prepared record has the columns of the record without its identifier, and those that are put. -/
theorem mem_names_prepare : name ∈ Fields.names (prepare r) ↔
    name ∈ Fields.names r ∧ name ≠ idColumn ∨ IsPut (Fields.names r) name := by
  have hsides : (∃ side : FlowEnd, side.Puts (Fields.names r) name) ↔
      FlowEnd.client.Puts (Fields.names r) name ∨ FlowEnd.server.Puts (Fields.names r) name :=
    ⟨fun ⟨side, hput⟩ => by cases side with | client => exact .inl hput | server => exact .inr hput,
      fun hput => hput.elim (⟨_, ·⟩) (⟨_, ·⟩)⟩
  rw [prepare, withResources, mem_names_withResource, puts_names_withResource, mem_names_withResource,
    puts_names_withId, puts_names_withId, mem_names_withId, IsPut, hsides]
  tauto

theorem get?_withId_of_ne (hid : name ≠ idColumn) (hput : ¬(name = "_id" ∧ idColumn ∈ Fields.names r)) :
    Fields.get? name (withId r) = Fields.get? name r := by
  unfold withId
  split
  · next id hsome =>
    have hmem : idColumn ∈ Fields.names r := by
      rw [← Fields.isSome_get?_iff, hsome]
      rfl
    rw [Fields.get?_put_of_ne fun heq => hput ⟨heq.symm, hmem⟩, Fields.get?_erase_of_ne hid.symm]
  · rfl

theorem get?_withResource_of_not_puts (h : ¬side.Puts (Fields.names r) name) :
    Fields.get? name (withResource r side) = Fields.get? name r := by
  rw [withResource_eq]
  exact Fields.get?_foldl_put_of_not_mem fun hmem => h (mem_names_resourceFields.mp hmem)

/-- Preparing a record leaves alone what it does not put. -/
theorem get?_withResources_of_not_puts (h : ∀ side : FlowEnd, ¬side.Puts (Fields.names r) name) :
    Fields.get? name (withResources r) = Fields.get? name r := by
  have hserver := mt puts_names_withResource.mp (h .server)
  rw [withResources, get?_withResource_of_not_puts hserver, get?_withResource_of_not_puts (h .client)]

/-- A column that is not put is as it was. -/
theorem get?_prepare_of_not_isPut (hid : name ≠ idColumn) (hput : ¬IsPut (Fields.names r) name) :
    Fields.get? name (prepare r) = Fields.get? name r := by
  obtain ⟨hput, hsides⟩ := not_or.mp hput
  have hsides : ∀ side : FlowEnd, ¬side.Puts (Fields.names (withId r)) name := fun side hside =>
    hsides ⟨side, puts_names_withId.mp hside⟩
  rw [prepare, get?_withResources_of_not_puts hsides, get?_withId_of_ne hid hput]

/-- The identifier is found under another name and with a mark. -/
theorem get?_id_prepare {id : Json} (hid : Fields.get? idColumn r = some id) :
    Fields.get? "_id" (prepare r) = some (.text ("id-" ++ id.shown)) := by
  have hsides : ∀ side : FlowEnd, ¬side.Puts (Fields.names (withId r)) "_id" := fun side hside => by
    rcases hside.2 with heq | heq | ⟨heq, -⟩ <;> revert heq <;> cases side <;> decide
  rw [prepare, get?_withResources_of_not_puts hsides]
  simp only [withId, hid]
  exact Fields.get?_put_self

end Record

/-! ## Columns of results -/

namespace QueryResult

variable {result : QueryResult} {r s : Record} {q : CompiledQuery} {c : Column} {name : String}

/-- All prepared records of a result have the same names. -/
theorem names_of_mem_prepared (hlength : ∀ row ∈ result.rows, row.length = result.columns.length)
    (hr : r ∈ result.prepared) : Fields.names r = preparedNames result.columns := by
  obtain ⟨raw, hraw, rfl⟩ := List.mem_map.mp hr
  obtain ⟨row, hrow, rfl⟩ := List.mem_map.mp hraw
  exact names_prepare_recordOf (hlength row hrow)

theorem mem_preparedNames_iff :
    name ∈ preparedNames result.columns ↔ name ∈ result.columns ∧ name ≠ idColumn ∨ IsPut result.columns name := by
  have hcolumns : ∀ other,
      other ∈ Fields.names (recordOf result.columns (result.columns.map fun _ => .null)) ↔ other ∈ result.columns :=
    fun _ => mem_names_recordOf (List.length_map _)
  rw [preparedNames, Record.mem_names_prepare, hcolumns, isPut_congr hcolumns]

/-- The columns of prepared records are named like each of them. -/
theorem map_name_sharedColumns (hlength : ∀ row ∈ result.rows, row.length = result.columns.length)
    (hr : r ∈ result.prepared) : (sharedColumns q result.prepared).map Column.name = Fields.names r := by
  cases hprepared : result.prepared with
  | nil =>
    rw [hprepared] at hr
    cases hr
  | cons first rest =>
    have hfirst : first ∈ result.prepared := hprepared ▸ List.mem_cons_self
    have hnames : (columnsOf q first).map Column.name = Fields.names first := by
      rw [columnsOf, List.map_map]
      rfl
    rw [names_of_mem_prepared hlength hr, ← names_of_mem_prepared hlength hfirst, ← hnames]
    rfl

/-- The names that are read off the first record are those of every record. -/
theorem sharedNames_prepared (hlength : ∀ row ∈ result.rows, row.length = result.columns.length)
    (hr : r ∈ result.prepared) : sharedNames result.prepared = Fields.names r := by
  cases hprepared : result.prepared with
  | nil =>
    rw [hprepared] at hr
    cases hr
  | cons first rest =>
    have hfirst : first ∈ result.prepared := hprepared ▸ List.mem_cons_self
    rw [names_of_mem_prepared hlength hr, ← names_of_mem_prepared hlength hfirst]
    rfl

/-- Every prepared record has a value for each of the names. -/
theorem exists_get?_of_mem (hlength : ∀ row ∈ result.rows, row.length = result.columns.length)
    (hname : name ∈ sharedNames result.prepared) (hr : r ∈ result.prepared) :
    ∃ value, Fields.get? name r = some value := by
  rw [← Option.isSome_iff_exists, Fields.isSome_get?_iff, ← sharedNames_prepared hlength hr]
  exact hname

end QueryResult

/-! ## What frames are read from -/

/-- Whether a field is read from what records have under a name: each of its values stands for one that is there. -/
structure FrameField.Reads (field : FrameField) (title : String) (kind : FieldKind) (name : String)
    (rows : List Record) : Prop where
  name_eq : field.name = title
  kind_eq : field.kind = kind
  values : List.Forall₂ (fun r x => ∃ value, Fields.get? name r = some value ∧ kind.Shows value x) rows field.values

/-- Whether a frame is read from records: one field for each name. -/
def Frame.Reads (frame : Frame) (titleOf : String → String) (kindOf : String → FieldKind) (names : List String)
    (rows : List Record) : Prop :=
  List.Forall₂ (fun name field => field.Reads (titleOf name) (kindOf name) name rows) names frame.fields

/-- The name of the field of a name in the frame of some rows: a table has no other names. -/
def fieldTitle (f : Form) (q : CompiledQuery) (tags : List String) (rows : List Record) (name : String) : String :=
  if isSeries f q then seriesTitle f q tags rows name else name

/-- Whether frames are read from records part by part, each of the placed records once. -/
structure FramesRead (f : Form) (q : CompiledQuery) (records : List Record) (parts : List (List (Record × Nat)))
    (frames : List Frame) : Prop where
  reads : List.Forall₂ (fun part frame =>
    frame.Reads (fieldTitle f q (q.tagsAmong (sharedNames records)) (part.map Prod.fst))
      (kindAmong q records (!isSeries f q)) (sharedNames records) (part.map Prod.fst)) parts frames
  perm : parts.flatten.Perm records.zipIdx

section Reading

variable {f : Form} {q : CompiledQuery} {rows records : List Record} {field : FrameField} {frame : Frame}
  {frames : List Frame} {result : QueryResult} {name title : String} {kind : FieldKind} {names : List String}
  {titleOf : String → String} {kindOf : String → FieldKind}

theorem FrameField.Shows.reads (hrows : ∀ r ∈ rows, ∃ value, Fields.get? name r = some value)
    (h : field.Shows title kind name rows) : field.Reads title kind name rows where
  name_eq := h.name_eq
  kind_eq := h.kind_eq
  values := ((List.forall₂_and_left _ _).mpr ⟨hrows, h.values⟩).imp fun r x hx => by
    obtain ⟨⟨value, hvalue⟩, hx⟩ := hx
    rw [Record.value, hvalue] at hx
    exact ⟨value, hvalue, hx⟩

/-- What a frame shows it reads, if nothing is missing. -/
theorem Frame.Shows.reads (hrows : ∀ name ∈ names, ∀ r ∈ rows, ∃ value, Fields.get? name r = some value)
    (h : frame.Shows titleOf kindOf names rows) : frame.Reads titleOf kindOf names rows :=
  ((List.forall₂_and_left _ _).mpr ⟨hrows, h⟩).imp fun _ _ hfield => FrameField.Shows.reads hfield.1 hfield.2

/-- The frames of series are read from their parts. -/
theorem framesRead_of_shapeSeries (hseries : isSeries f q = true) (hascending : ∀ r ∈ records, Fields.Ascending r)
    (hrows : ∀ name ∈ sharedNames records, ∀ r ∈ records, ∃ value, Fields.get? name r = some value)
    (h : shapeSeries f q records = .ok frames) :
    FramesRead f q records (placedParts (sharedColumns q records) (sharedTags q records) records.zipIdx) frames where
  reads := by
    have htitle : ∀ tags rows, fieldTitle f q tags rows = seriesTitle f q tags rows :=
      fun tags rows => funext fun name => if_pos hseries
    have hparts : ∀ part ∈ placedParts (sharedColumns q records) (sharedTags q records) records.zipIdx,
        ∀ name ∈ sharedNames records, ∀ r ∈ part.map Prod.fst, ∃ value, Fields.get? name r = some value := by
      intro part hpart name hname r hr
      obtain ⟨placed, hplaced, rfl⟩ := List.mem_map.mp hr
      have hmem : placed ∈ records.zipIdx :=
        placedParts_flatten_perm.mem_iff.mp (List.mem_flatten_of_mem hpart hplaced)
      exact hrows name hname placed.1 (List.fst_mem_of_mem_zipIdx hmem)
    simp only [htitle, hseries, Bool.not_true]
    exact ((List.forall₂_and_left _ _).mpr ⟨hparts, shows_of_shapeSeries hascending h⟩).imp fun _ _ hframe =>
      Frame.Shows.reads hframe.1 hframe.2
  perm := placedParts_flatten_perm

/-- A result that is no series has a single frame, if it has rows. -/
theorem tableFrame_of_shapeFrames (hseries : ¬isSeries f q = true) (h : shapeFrames result q f = .ok frames) :
    result.prepared = [] ∧ frames = [] ∨
      ∃ frame, frames = [frame] ∧ tableFrame f q (sharedColumns q result.prepared) result.prepared = .ok frame := by
  unfold shapeFrames at h
  rw [QueryResult.prepared]
  cases hrecords : result.records.map Record.prepare with
  | nil =>
    rw [hrecords] at h
    exact .inl ⟨rfl, (Except.ok.inj h).symm⟩
  | cons first rest =>
    rw [hrecords] at h
    dsimp only at h
    rw [if_neg hseries] at h
    cases htable : tableFrame f q (columnsOf q first) (first :: rest) with
    | error error =>
      rw [htable] at h
      cases h
    | ok frame =>
      rw [htable] at h
      exact .inr ⟨frame, (Except.ok.inj h).symm, htable⟩

/-- The frames of a decoded result are read from its records, part by part. -/
theorem exists_framesRead (hlength : ∀ row ∈ result.rows, row.length = result.columns.length)
    (h : shapeFrames result q f = .ok frames) : ∃ parts, FramesRead f q result.prepared parts frames := by
  have hascending : ∀ r ∈ result.prepared, Fields.Ascending r := fun r => QueryResult.ascending_of_mem_prepared
  have hrows : ∀ name ∈ sharedNames result.prepared, ∀ r ∈ result.prepared,
      ∃ value, Fields.get? name r = some value := fun name hname r => QueryResult.exists_get?_of_mem hlength hname
  by_cases hseries : isSeries f q = true
  · rw [shapeFrames_eq hseries] at h
    exact ⟨_, framesRead_of_shapeSeries hseries hascending hrows h⟩
  · rcases tableFrame_of_shapeFrames hseries h with ⟨hnone, rfl⟩ | ⟨frame, rfl, htable⟩
    · exact ⟨[], .nil, by rw [hnone]; rfl⟩
    · have htitle : ∀ tags rows, fieldTitle f q tags rows = id := fun tags rows => funext fun name => if_neg hseries
      refine ⟨[result.prepared.zipIdx], .cons ?_ .nil, by rw [List.flatten_singleton]⟩
      rw [List.zipIdx_map_fst, htitle, Bool.eq_false_iff.mpr hseries]
      exact (shows_of_tableFrame hascending htable).reads hrows

/-- **All prepared rows have the same columns.** In a decoded result these are the columns of the answer, but for that
of identifiers, and the columns that preparing a row puts, whatever the values of the row are; they are the columns that
are read off the first record. So every value in a frame stands for one that its record has. -/
theorem QueryResult.prepared_columns_eq {body : String} (h : QueryResult.ofBody body = .ok result) :
    (∀ r ∈ result.prepared, ∀ s ∈ result.prepared, Fields.names r = Fields.names s) ∧
    (∀ r ∈ result.prepared, ∀ name, name ∈ Fields.names r ↔
      name ∈ result.columns ∧ name ≠ idColumn ∨ IsPut result.columns name) ∧
    (∀ q, ∀ r ∈ result.prepared, (sharedColumns q result.prepared).map Column.name = Fields.names r) ∧
    ∀ q f frames, shapeFrames result q f = .ok frames → ∃ parts, FramesRead f q result.prepared parts frames := by
  have hlength := row_length_of_ofBody h
  refine ⟨fun r hr s hs => ?_, fun r hr name => ?_, fun q r => map_name_sharedColumns hlength,
    fun q f frames => exists_framesRead hlength⟩
  · rw [names_of_mem_prepared hlength hr, names_of_mem_prepared hlength hs]
  · rw [names_of_mem_prepared hlength hr, mem_preparedNames_iff]

/-- The answer that gives a result. -/
def QueryResult.answer (result : QueryResult) : Json :=
  .object [("result", .object [("columns", .texts result.columns), ("values", .array (result.rows.map .array))])]

/-- A printed answer is read as its value, unless the reader of answers finds fault with it. -/
theorem QueryResult.ofBody_compress {v : Json} (h : v.IsExact) :
    QueryResult.ofBody v.compress =
      match Envelope.decoder.fault? Json.maxOpen (.ofJson v) with
      | some _ => .error (.decode "invalid json")
      | none => (Envelope.decoder.decode v).elim (.error (.decode "invalid json")) QueryResult.ofEnvelope := by
  rw [QueryResult.ofBody, Decoder.read_compress _ h]
  cases Envelope.decoder.fault? Json.maxOpen (.ofJson v) with
  | some fault => rfl
  | none => cases Envelope.decoder.decode v <;> rfl

/-- Clients of different kinds, and of none, have the same columns. -/
theorem QueryResult.prepared_columns_eq_mixed :
    let result : QueryResult := ⟨["client_node_type"], [[.text "pod"], [.text "ip"], [.null]]⟩
    QueryResult.ofBody result.answer.compress = .ok result ∧ result.prepared.length = 3 ∧
      ∀ r ∈ result.prepared, Fields.names r =
        ["client_node_type", "client_resource", "client_resource_id", "client_resource_type"] := by
  intro result
  have hexact : result.answer.IsExact := by
    simp [answer, result, Json.texts, Json.IsExact, Json.AreExact, Json.AreFieldsExact]
  have hbody : QueryResult.ofBody result.answer.compress = .ok result := (QueryResult.ofBody_compress hexact).trans rfl
  obtain ⟨hsame, -⟩ := QueryResult.prepared_columns_eq hbody
  refine ⟨hbody, rfl, fun r hr => ?_⟩
  rw [hsame r hr _ List.mem_cons_self]
  decide

end Reading
end PanelQuery
