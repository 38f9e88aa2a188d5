import PanelQuery.Proofs.Frame.Prepared

/-!
# Cells of results

What becomes of the cells of a decoded result. A record has one value a name, so of columns with one name it holds the
last (`QueryResult.get?_of_isLast`): every cell is found exactly if columns of one name never differ
(`QueryResult.forall_get?_iff`). The cells of a column that is the last of its name reach the frames, unless preparing a
row puts a column of that name (`QueryResult.cells_kept`).
-/

namespace PanelQuery

namespace QueryResult

/-- The value in a row and a column. -/
def cell? (result : QueryResult) (i j : Nat) : Option Json := result.rows[i]?.bind fun row => row[j]?

/-- Whether a column is the last of its name. -/
def IsLast (columns : List String) (j : Nat) (name : String) : Prop :=
  columns[j]? = some name ∧ ∀ k, columns[k]? = some name → k ≤ j

/-- The name under which a column is shown. -/
def shownName (name : String) : String := if name = idColumn then "_id" else name

/-- A value as it is shown: identifiers have a mark. -/
def shownCell (name : String) (value : Json) : Json := if name = idColumn then .text ("id-" ++ value.shown) else value

section Rows

variable {columns : List String} {row : List Json} {name : String} {i j : Nat} {value : Json}

/-- The values under a name are those in the columns of that name. -/
theorem mem_valuesOf_zip :
    value ∈ Fields.valuesOf name (columns.zip row) ↔ ∃ k : Nat, columns[k]? = some name ∧ row[k]? = some value := by
  have hmem : value ∈ Fields.valuesOf name (columns.zip row) ↔ (name, value) ∈ columns.zip row := by
    simp [Fields.valuesOf]
  rw [hmem, List.mem_iff_getElem?]
  refine exists_congr fun k => ?_
  rw [List.getElem?_zip_eq_some]

/-- The last column of a name gives the last value under it. -/
theorem getLast?_valuesOf_zip : ∀ {columns : List String} {row : List Json} {j : Nat},
    row.length = columns.length → IsLast columns j name →
      (Fields.valuesOf name (columns.zip row)).getLast? = row[j]?
  | [], _, _, _, hlast => by cases hlast.1
  | column :: columns, value :: row, 0, _, hlast => by
    have hnone : Fields.valuesOf name (columns.zip row) = [] := by
      refine List.eq_nil_iff_forall_not_mem.mpr fun other hother => ?_
      obtain ⟨k, hk, -⟩ := mem_valuesOf_zip.mp hother
      exact absurd (hlast.2 (k + 1) hk) (Nat.not_succ_le_zero k)
    have hname : column = name := Option.some.inj hlast.1
    rw [List.zip_cons_cons, Fields.valuesOf_cons, if_pos hname, hnone]
    rfl
  | column :: columns, value :: row, j + 1, hlength, hlast => by
    have hlength : row.length = columns.length := Nat.succ.inj hlength
    have hrest : (Fields.valuesOf name (columns.zip row)).getLast? = row[j]? :=
      getLast?_valuesOf_zip hlength ⟨hlast.1, fun k hk => Nat.le_of_succ_le_succ (hlast.2 (k + 1) hk)⟩
    have hj : j < row.length := by
      have hcolumn : columns[j]? = some name := hlast.1
      rw [hlength]
      exact (List.getElem?_eq_some_iff.mp hcolumn).1
    rw [List.zip_cons_cons, Fields.valuesOf_cons, List.getElem?_cons_succ, ← hrest]
    split
    · rw [List.getLast?_cons, hrest, List.getElem?_eq_getElem hj]
      rfl
    · rfl

end Rows

variable {result : QueryResult} {record : Record} {name : String} {i j : Nat}

/-- There is a record for each row, in order. -/
theorem records_getElem? : result.records[i]? = result.rows[i]?.map (recordOf result.columns) := List.getElem?_map

/-- A record holds the cell of the last column of each name. -/
theorem get?_of_isLast (hlength : ∀ row ∈ result.rows, row.length = result.columns.length)
    (hrecord : result.records[i]? = some record) (hlast : IsLast result.columns j name) :
    Fields.get? name record = result.cell? i j := by
  rw [records_getElem?, Option.map_eq_some_iff] at hrecord
  obtain ⟨row, hrow, rfl⟩ := hrecord
  rw [recordOf, Fields.get?_sorted, getLast?_valuesOf_zip (hlength row (List.mem_of_getElem? hrow)) hlast, cell?, hrow]
  rfl

/-- Every cell is found in its record exactly if columns of one name have the same cells in each row. -/
theorem forall_get?_iff (hlength : ∀ row ∈ result.rows, row.length = result.columns.length) :
    (∀ i j record name, result.records[i]? = some record → result.columns[j]? = some name →
        Fields.get? name record = result.cell? i j) ↔
      ∀ i j k name, result.columns[j]? = some name → result.columns[k]? = some name →
        result.cell? i j = result.cell? i k := by
  constructor
  · intro hfound i j k name hj hk
    cases hrow : result.rows[i]? with
    | none => rw [cell?, cell?, hrow]; rfl
    | some row =>
      have hrecord : result.records[i]? = some (recordOf result.columns row) := by rw [records_getElem?, hrow]; rfl
      rw [← hfound i j _ name hrecord hj, hfound i k _ name hrecord hk]
  · intro hsame i j record name hrecord hj
    rw [records_getElem?, Option.map_eq_some_iff] at hrecord
    obtain ⟨row, hrow, rfl⟩ := hrecord
    have hcell : ∀ k, result.cell? i k = row[k]? := fun k => by rw [cell?, hrow]; rfl
    have hj' : j < row.length := by
      rw [hlength row (List.mem_of_getElem? hrow)]
      exact (List.getElem?_eq_some_iff.mp hj).1
    rw [recordOf, Fields.get?_sorted]
    cases hlast : (Fields.valuesOf name (result.columns.zip row)).getLast? with
    | none =>
      have hmem := mem_valuesOf_zip.mpr ⟨j, hj, List.getElem?_eq_getElem hj'⟩
      rw [List.getLast?_eq_none_iff.mp hlast] at hmem
      cases hmem
    | some value =>
      obtain ⟨k, hk, hvalue⟩ := mem_valuesOf_zip.mp (List.mem_of_getLast? hlast)
      rw [hsame i j k name hj hk, hcell, hvalue]

/-! ## Cells in frames -/

/-- A record has the columns of its result. -/
theorem names_of_getElem?_records (hlength : ∀ row ∈ result.rows, row.length = result.columns.length)
    (hrecord : result.records[i]? = some record) : name ∈ Fields.names record ↔ name ∈ result.columns := by
  rw [records_getElem?, Option.map_eq_some_iff] at hrecord
  obtain ⟨row, hrow, rfl⟩ := hrecord
  exact mem_names_recordOf (hlength row (List.mem_of_getElem? hrow))

/-- The cell of a column is there in every row. -/
theorem exists_cell?_of_isLast (hlength : ∀ row ∈ result.rows, row.length = result.columns.length)
    (hrecord : result.records[i]? = some record) (hlast : IsLast result.columns j name) :
    ∃ cell, result.cell? i j = some cell := by
  have hmem : name ∈ Fields.names record :=
    (names_of_getElem?_records hlength hrecord).mpr (List.mem_of_getElem? hlast.1)
  rw [← get?_of_isLast hlength hrecord hlast]
  exact Option.isSome_iff_exists.mp (Fields.isSome_get?_iff.mpr hmem)

/-- A prepared record holds the cell of a column that is not put. -/
theorem get?_prepare_of_isLast (hlength : ∀ row ∈ result.rows, row.length = result.columns.length)
    (hrecord : result.records[i]? = some record) (hlast : IsLast result.columns j name)
    (hput : ¬IsPut result.columns name) :
    Fields.get? (shownName name) record.prepare = (result.cell? i j).map (shownCell name) := by
  have hfound := get?_of_isLast hlength hrecord hlast
  obtain ⟨cell, hcell⟩ := exists_cell?_of_isLast hlength hrecord hlast
  rw [hcell] at hfound
  rw [hcell, Option.map_some]
  by_cases hid : name = idColumn
  · subst hid
    exact Record.get?_id_prepare hfound
  · have hput : ¬IsPut (Fields.names record) name :=
      mt (isPut_congr fun other => names_of_getElem?_records hlength hrecord).mp hput
    rw [shownName, if_neg hid, shownCell, if_neg hid, Record.get?_prepare_of_not_isPut hid hput, hfound]

end QueryResult

open QueryResult

/-- The prepared records of some rows. -/
def QueryResult.preparedAt (result : QueryResult) (places : List Nat) : List Record :=
  places.filterMap fun i => result.prepared[i]?

/-- Whether a frame shows the cells of a column in these rows: it has a field for the column, with its name and of its
kind, whose values stand for the cells. -/
def Frame.ShowsCells (frame : Frame) (f : Form) (q : CompiledQuery) (result : QueryResult) (j : Nat) (name : String)
    (places : List Nat) : Prop :=
  ∃ field ∈ frame.fields,
    field.name =
      fieldTitle f q (q.tagsAmong (sharedNames result.prepared)) (result.preparedAt places) (shownName name) ∧
    field.kind = kindAmong q result.prepared (!isSeries f q) (shownName name) ∧
    List.Forall₂ (fun i x => ∃ cell, result.cell? i j = some cell ∧ field.kind.Shows (shownCell name cell) x)
      places field.values

section Frames

variable {f : Form} {q : CompiledQuery} {result : QueryResult} {frame : Frame} {frames : List Frame}
  {part : List (Record × Nat)} {name : String} {j : Nat}

/-- Placed records are those of their places. -/
theorem preparedAt_places (hpart : ∀ r ∈ part, r ∈ result.prepared.zipIdx) :
    result.preparedAt (part.map Prod.snd) = part.map Prod.fst := by
  have hfound : ∀ r ∈ part, result.prepared[r.2]? = some r.1 := fun r hr =>
    List.mem_zipIdx_iff_getElem?.mp (hpart r hr)
  rw [QueryResult.preparedAt, List.filterMap_map, ← List.filterMap_eq_map]
  exact List.filterMap_congr hfound

/-- A placed record is the prepared record of its row. -/
theorem exists_record_of_mem_zipIdx {r : Record × Nat} (hr : r ∈ result.prepared.zipIdx) :
    ∃ record, result.records[r.2]? = some record ∧ r.1 = record.prepare := by
  have hr := List.mem_zipIdx_iff_getElem?.mp hr
  rw [QueryResult.prepared, List.getElem?_map, Option.map_eq_some_iff] at hr
  obtain ⟨record, hrecord, heq⟩ := hr
  exact ⟨record, hrecord, heq.symm⟩

/-- Each column of the answer is there under the name that it is shown under. -/
theorem shownName_mem_sharedNames (hlength : ∀ row ∈ result.rows, row.length = result.columns.length)
    (hrows : result.prepared ≠ []) (hcolumn : name ∈ result.columns) :
    shownName name ∈ sharedNames result.prepared := by
  obtain ⟨r, hr⟩ := List.exists_mem_of_ne_nil _ hrows
  rw [sharedNames_prepared hlength hr, names_of_mem_prepared hlength hr, mem_preparedNames_iff]
  by_cases hid : name = idColumn
  · exact .inr (.inl ⟨if_pos hid, hid ▸ hcolumn⟩)
  · rw [shownName, if_neg hid]
    exact .inl ⟨hcolumn, hid⟩

/-- A frame that is read from placed records shows the cells of their rows. -/
theorem Frame.Reads.showsCells (hlength : ∀ row ∈ result.rows, row.length = result.columns.length)
    (hreads : frame.Reads (fieldTitle f q (q.tagsAmong (sharedNames result.prepared)) (part.map Prod.fst))
      (kindAmong q result.prepared (!isSeries f q)) (sharedNames result.prepared) (part.map Prod.fst))
    (hpart : ∀ r ∈ part, r ∈ result.prepared.zipIdx) (hrows : result.prepared ≠ [])
    (hlast : IsLast result.columns j name) (hput : ¬IsPut result.columns name) :
    frame.ShowsCells f q result j name (part.map Prod.snd) := by
  have hname := shownName_mem_sharedNames hlength hrows (List.mem_of_getElem? hlast.1)
  obtain ⟨field, hfield, hreads⟩ := exists_of_mem_forall₂ hreads hname
  refine ⟨field, hfield, ?_, hreads.kind_eq, ?_⟩
  · rw [preparedAt_places hpart]
    exact hreads.name_eq
  · have hvalues := hreads.values
    rw [List.forall₂_map_left_iff] at hvalues ⊢
    refine ((List.forall₂_and_left _ _).mpr ⟨hpart, hvalues⟩).imp fun r x hx => ?_
    obtain ⟨hr, value, hvalue, hx⟩ := hx
    obtain ⟨record, hrecord, heq⟩ := exists_record_of_mem_zipIdx hr
    obtain ⟨cell, hcell⟩ := exists_cell?_of_isLast hlength hrecord hlast
    rw [heq, get?_prepare_of_isLast hlength hrecord hlast hput, hcell] at hvalue
    rw [hreads.kind_eq]
    exact ⟨cell, hcell, Option.some.inj hvalue ▸ hx⟩

/-- Frames that are read from placed records show the cells of a column, each row once. -/
theorem FramesRead.showsCells {parts : List (List (Record × Nat))}
    (hlength : ∀ row ∈ result.rows, row.length = result.columns.length)
    (h : FramesRead f q result.prepared parts frames) (hrows : result.prepared ≠ [])
    (hlast : IsLast result.columns j name) (hput : ¬IsPut result.columns name) :
    List.Forall₂ (fun places frame => frame.ShowsCells f q result j name places)
      (parts.map (List.map Prod.snd)) frames := by
  rw [List.forall₂_map_left_iff]
  have hparts : ∀ part ∈ parts, ∀ r ∈ part, r ∈ result.prepared.zipIdx := fun part hpart r hr =>
    h.perm.mem_iff.mp (List.mem_flatten_of_mem hpart hr)
  exact ((List.forall₂_and_left _ _).mpr ⟨hparts, h.reads⟩).imp fun part frame hframe =>
    hframe.2.showsCells hlength hframe.1 hrows hlast hput

/-- Frames that are read from the prepared records show each row once. -/
theorem FramesRead.places_perm {parts : List (List (Record × Nat))}
    (h : FramesRead f q result.prepared parts frames) :
    (parts.map (List.map Prod.snd)).flatten.Perm (List.range result.rows.length) := by
  have hplaces : result.prepared.zipIdx.map Prod.snd = List.range result.rows.length := by
    rw [List.zipIdx_map_snd, ← List.range_eq_range', QueryResult.prepared, List.length_map, QueryResult.records,
      List.length_map]
  rw [← List.map_flatten, ← hplaces]
  exact h.perm.map _

/-- A result without rows has no frames. -/
theorem frames_of_no_rows (hrows : result.prepared = []) (h : shapeFrames result q f = .ok frames) : frames = [] := by
  have hrecords : result.records.map Record.prepare = [] := hrows
  rw [shapeFrames, hrecords] at h
  exact (Except.ok.inj h).symm

/-- **Decoding keeps every cell, but a record has one value a name.** A row of an accepted answer has one value for each
column. The record of the row holds the cells of the columns that are the last of their name, which are all cells
exactly if columns of one name have the same cells in each row. Every frame shows these cells, and together the frames
show each row once, unless preparing the rows puts a column of the same name. -/
theorem QueryResult.cells_kept {body : String} (h : QueryResult.ofBody body = .ok result) :
    (∀ row ∈ result.rows, row.length = result.columns.length) ∧
    (∀ i j record name, result.records[i]? = some record → IsLast result.columns j name →
      Fields.get? name record = result.cell? i j) ∧
    ((∀ i j record name, result.records[i]? = some record → result.columns[j]? = some name →
        Fields.get? name record = result.cell? i j) ↔
      ∀ i j k name, result.columns[j]? = some name → result.columns[k]? = some name →
        result.cell? i j = result.cell? i k) ∧
    ∀ q f frames, shapeFrames result q f = .ok frames → ∃ parts : List (List Nat),
      parts.flatten.Perm (List.range result.rows.length) ∧ parts.length = frames.length ∧
      ∀ j name, IsLast result.columns j name → ¬IsPut result.columns name →
        List.Forall₂ (fun places frame => frame.ShowsCells f q result j name places) parts frames := by
  have hlength := row_length_of_ofBody h
  refine ⟨hlength, fun i j record name => get?_of_isLast hlength, forall_get?_iff hlength,
    fun q f frames hframes => ?_⟩
  by_cases hrows : result.prepared = []
  · have hnone : result.rows = [] := List.map_eq_nil_iff.mp (List.map_eq_nil_iff.mp hrows)
    rw [frames_of_no_rows hrows hframes, hnone]
    exact ⟨[], .nil, rfl, fun _ _ _ _ => .nil⟩
  · obtain ⟨parts, hparts⟩ := exists_framesRead hlength hframes
    refine ⟨parts.map (List.map Prod.snd), hparts.places_perm, ?_, fun j name => hparts.showsCells hlength hrows⟩
    rw [List.length_map, hparts.reads.length_eq]

/-- An answer with one row of two truth values is accepted, whatever the names of its columns. -/
theorem QueryResult.ofBody_pair (first second : String) (b c : Bool) :
    QueryResult.ofBody (answer ⟨[first, second], [[.bool b, .bool c]]⟩).compress =
      .ok ⟨[first, second], [[.bool b, .bool c]]⟩ := by
  have hexact : (answer ⟨[first, second], [[.bool b, .bool c]]⟩).IsExact := by
    simp [answer, Json.texts, Json.IsExact, Json.AreExact, Json.AreFieldsExact]
  exact (QueryResult.ofBody_compress hexact).trans rfl

/-- Of a pair of columns, the second is the last of its name, and so is the first if the names differ. -/
theorem QueryResult.isLast_pair {first second : String} :
    IsLast [first, second] 1 second ∧ (first ≠ second → IsLast [first, second] 0 first) := by
  refine ⟨⟨rfl, fun k hk => ?_⟩, fun hne => ⟨rfl, fun k hk => ?_⟩⟩
  · have hk : k < 2 := (List.getElem?_eq_some_iff.mp hk).1
    omega
  · match k, hk with
    | 0, _ => exact Nat.le_refl 0
    | 1, hk => exact absurd (Option.some.inj hk).symm hne

/-- The record of a row has the second of two cells with one name. In the frame of a series, the cell of a metric is
shown in a field with the name of the series. -/
theorem QueryResult.cells_kept_repeated :
    (let result : QueryResult := ⟨["a", "a"], [[.bool true, .bool false]]⟩
     QueryResult.ofBody result.answer.compress = .ok result ∧
      ∃ record, result.records[0]? = some record ∧ IsLast result.columns 1 "a" ∧
        Fields.get? "a" record = some (.bool false)) ∧
    let result : QueryResult := ⟨["byte", "pod"], [[.null, .text "web"]]⟩
    let q : CompiledQuery :=
      { sql := "SELECT Sum(byte), pod FROM t GROUP BY pod", tags := [], metrics := [⟨"byte", 1, []⟩] }
    QueryResult.ofBody result.answer.compress = .ok result ∧
      ∃ frame, shapeFrames result q (Form.new .trafficQuery) = .ok [frame] ∧
        frame.ShowsCells (Form.new .trafficQuery) q result 0 "byte" [0] ∧
        ∃ field ∈ frame.fields, field.name = "web" := by
  refine ⟨?_, ?_⟩
  · intro result
    have hbody : QueryResult.ofBody result.answer.compress = .ok result := QueryResult.ofBody_pair ..
    exact ⟨hbody, _, rfl, isLast_pair.1, (QueryResult.cells_kept hbody).2.1 0 1 _ "a" rfl isLast_pair.1⟩
  · intro result q
    have hexact : result.answer.IsExact := by
      simp [result, answer, Json.texts, Json.IsExact, Json.AreExact, Json.AreFieldsExact]
    have hbody : QueryResult.ofBody result.answer.compress = .ok result :=
      (QueryResult.ofBody_compress hexact).trans rfl
    let record : Record := [("byte", .null), ("pod", .text "web")]
    have hshaped : (seriesFrame (Form.new .trafficQuery) q (columnsOf q record) (tagsOf q record)
        [record]).toOption.isSome = true := by
      decide
    obtain ⟨frame, hframe⟩ := Option.isSome_iff_exists.mp hshaped
    have hframes : shapeFrames result q (Form.new .trafficQuery) = .ok [frame] := by
      have hprepared : result.records.map Record.prepare = [record] := rfl
      rw [shapeFrames_eq (by decide), hprepared, shapeSeries_singleton, toOption_eq_some_iff.mp hframe]
      rfl
    obtain ⟨parts, hperm, hlength, hshows⟩ := (QueryResult.cells_kept hbody).2.2.2 q _ _ hframes
    obtain ⟨places, rfl⟩ := List.length_eq_one_iff.mp hlength
    obtain rfl : places = [0] := List.perm_singleton.mp (by simpa [result] using hperm)
    have hput : ¬IsPut result.columns "byte" := by
      rintro (⟨hid, -⟩ | ⟨side, htype, -⟩)
      · revert hid
        decide
      · revert htype
        cases side <;> decide
    have hcell : frame.ShowsCells (Form.new .trafficQuery) q result 0 "byte" [0] :=
      (List.forall₂_cons.mp (hshows 0 "byte" (isLast_pair.2 (by decide)) hput)).1
    obtain ⟨field, hfield, hname, -⟩ := id hcell
    exact ⟨hbody, frame, hframes, hcell, field, hfield, hname.trans (by decide)⟩

/-- A repeated column is not found in its record, and a column of the name that identifiers are shown under reaches no
frame. -/
theorem QueryResult.cells_lost :
    (let result : QueryResult := ⟨["a", "a"], [[.bool true, .bool false]]⟩
     QueryResult.ofBody result.answer.compress = .ok result ∧
      ∃ record, result.records[0]? = some record ∧ result.columns[0]? = some "a" ∧
        Fields.get? "a" record ≠ result.cell? 0 0) ∧
    let result : QueryResult := ⟨["toString(_id)", "_id"], [[.bool false, .bool true]]⟩
    QueryResult.ofBody result.answer.compress = .ok result ∧
      result.columns[1]? = some "_id" ∧ result.cell? 0 1 = some (.bool true) ∧
      shapeFrames result ⟨"", [], []⟩ (Form.new .trafficQuery) =
        .ok [⟨[⟨"_id", .text, [.text "id-false"]⟩], ⟨[], [], none⟩⟩] := by
  have hfound : Fields.get? "a" (recordOf ["a", "a"] [.bool true, .bool false]) = some (.bool false) := rfl
  refine ⟨⟨QueryResult.ofBody_pair .., _, rfl, rfl, ?_⟩, QueryResult.ofBody_pair .., rfl, rfl, rfl⟩
  rw [hfound]
  exact nofun

end Frames
end PanelQuery
