import PanelQuery.Proofs.Json.Reordering
import PanelQuery.Service.Respond

/-!
# Forms survive their JSON

Every part of a form is read back from its JSON, in whatever order the fields stand (`Row.readsBack` and its
companions). A form itself is read back up to its format (`Form.ofJson?_reordered`): an unset format is left out when
the form is written, and where none is given the one of a new form is read. So a form survives exactly if its format is
set (`Form.reread_eq_iff`), and so does one that an edit has made and that comes back in a request (`Form.round_trip`).
-/

namespace PanelQuery

open Json (Reordering ReadsBack)
open RecordDecoder (decode_map decode_seq decode_need decode_given decode_given_onlyIf decode_given_optional
  decode_maybe)

/-! ## Values and functions -/

theorem Scalar.readsBack : ReadsBack Scalar.ofJson? Scalar.toJson := fun φ hφ s => by
  cases s with
  | bool b => rw [Scalar.toJson, hφ.bool]; rfl
  | number n => rw [Scalar.toJson, hφ.number]; rfl
  | text s => rw [Scalar.toJson, hφ.text]; rfl

/-- A scalar is no container. -/
theorem Scalar.reordered_toJson {φ : Json → Json} (hφ : Reordering φ) (s : Scalar) : φ s.toJson = s.toJson := by
  cases s with
  | bool b => exact hφ.bool b
  | number n => exact hφ.number n
  | text s => exact hφ.text s

theorem Params.readsBack : ReadsBack Params.ofJson? Params.toJson := fun φ hφ p => by
  cases p with
  | list items => rw [Params.toJson, hφ.array, Params.ofJson?, Scalar.readsBack.mapM hφ]; rfl
  | single item =>
    rw [Params.toJson, Scalar.reordered_toJson hφ]
    cases item <;> rfl

theorem SubFunction.readsBack : ReadsBack SubFunction.decoder.decode SubFunction.toJson := by
  refine ReadsBack.record fun φ hφ f fields hkept => ?_
  have func := decode_need hφ hkept "func" .text Json.readsBack_text (a := f.func) (by simp [Fields.only?_eq])
  have op := decode_maybe hφ hkept "op" .text Json.readsBack_text rfl (a := f.op) (by simp [Fields.only?_eq])
  have params := decode_maybe hφ hkept "params" Params.decoder Params.readsBack rfl (a := f.params)
    (by simp [Fields.only?_eq])
  simp only [decode_map, decode_seq, func, op, params]
  rfl

theorem Choice.readsBack : ReadsBack Choice.decoder.decode Choice.toJson := by
  refine ReadsBack.record fun φ hφ c fields hkept => ?_
  have label := decode_maybe hφ hkept "label" Scalar.decoder Scalar.readsBack rfl (a := c.label)
    (by simp [Fields.only?_eq])
  have value := decode_given hφ hkept "value" .empty Scalar.decoder Scalar.readsBack (a := c.value)
    (by simp [Fields.only?_eq])
  have isVariable := decode_given_onlyIf hφ hkept "isVariable" false .bool Json.readsBack_bool (a := c.isVariable)
    c.isVariable id (by simp +contextual [Fields.only?_eq])
  simp only [decode_map, decode_seq, label, value, isVariable]
  rfl

theorem ValueItem.readsBack : ReadsBack ValueItem.ofJson? ValueItem.toJson := fun φ hφ item => by
  cases item with
  | choice c => rw [ValueItem.toJson, ValueItem.ofJson?, Choice.readsBack φ hφ c]; rfl
  | literal s =>
    rw [ValueItem.toJson, Scalar.reordered_toJson hφ]
    cases s <;> rfl

/-- A single item is no list. -/
theorem ValueItem.listOf_toJson {φ : Json → Json} (hφ : Reordering φ) (decode : Json → Option α) (item : ValueItem) :
    Json.listOf decode (φ item.toJson) = none := by
  cases item with
  | choice c =>
    obtain ⟨fields, hobject, -⟩ := hφ.object _
    rw [ValueItem.toJson, Choice.toJson, hobject]
    rfl
  | literal s =>
    rw [ValueItem.toJson, Scalar.reordered_toJson hφ]
    cases s <;> rfl

theorem RowValue.readsBack : ReadsBack RowValue.ofJson? RowValue.toJson := fun φ hφ val => by
  cases val with
  | list items => rw [RowValue.toJson, RowValue.ofJson?, ValueItem.readsBack.list φ hφ items]; rfl
  | single item =>
    rw [RowValue.toJson, RowValue.ofJson?, ValueItem.listOf_toJson hφ, ValueItem.readsBack φ hφ item]
    rfl

/-! ## Rows -/

theorem SelectRef.readsBack : ReadsBack SelectRef.decoder.decode SelectRef.toJson := by
  refine ReadsBack.record fun φ hφ r fields hkept => ?_
  have key := decode_given hφ hkept "key" "" .text Json.readsBack_text (a := r.key) (by simp [Fields.only?_eq])
  have func := decode_given hφ hkept "func" "" .text Json.readsBack_text (a := r.func) (by simp [Fields.only?_eq])
  have params := decode_given hφ hkept "params" .empty Params.decoder Params.readsBack (a := r.params)
    (by simp [Fields.only?_eq])
  have subFuncs := decode_given hφ hkept "subFuncs" [] (.list SubFunction.decoder) SubFunction.readsBack.list
    (a := r.subFuncs) (by simp [Fields.only?_eq])
  simp only [decode_map, decode_seq, key, func, params, subFuncs]
  rfl

theorem RowKind.readsBack : ReadsBack (Decoder.choice RowKind.ofName?).decode fun k => .text k.name :=
  Json.readsBack_choice fun k => by cases k <;> rfl

theorem SortOrder.ofName?_name (s : SortOrder) : SortOrder.ofName? s.name = some s := by cases s <;> rfl

theorem Side.ofName?_name (s : Side) : Side.ofName? s.name = some s := by cases s <;> rfl

theorem Row.readsBack : ReadsBack Row.decoder.decode Row.toJson := by
  refine ReadsBack.record fun φ hφ r fields hkept => ?_
  have kind := decode_given hφ hkept "type" .tag _ RowKind.readsBack (a := r.kind) (by simp [Fields.only?_eq])
  have key := decode_given hφ hkept "key" "" .text Json.readsBack_text (a := r.key) (by simp [Fields.only?_eq])
  have func := decode_given hφ hkept "func" "" .text Json.readsBack_text (a := r.func) (by simp [Fields.only?_eq])
  have params := decode_given hφ hkept "params" .empty Params.decoder Params.readsBack (a := r.params)
    (by simp [Fields.only?_eq])
  have op := decode_given hφ hkept "op" "" .text Json.readsBack_text (a := r.op) (by simp [Fields.only?_eq])
  have val := decode_maybe hφ hkept "val" RowValue.decoder RowValue.readsBack rfl (a := r.val)
    (by simp [Fields.only?_eq])
  have aliasName := decode_given hφ hkept "as" "" .text Json.readsBack_text (a := r.aliasName)
    (by simp [Fields.only?_eq])
  -- an empty list of functions and an empty function before `func` are left out, and these are the defaults
  have subFuncs := decode_given_onlyIf hφ hkept "subFuncs" [] (.list SubFunction.decoder) SubFunction.readsBack.list
    (a := r.subFuncs) (!r.subFuncs.isEmpty) (by simp) (by simp [Fields.only?_eq])
  have preFunc := decode_given_onlyIf hφ hkept "preFunc" "" .text Json.readsBack_text (a := r.preFunc)
    (!r.preFunc.isEmpty) (by simp) (by simp [Fields.only?_eq])
  have sort := decode_given_optional hkept "sort" none _ (Json.lenient_of_reordered SortOrder.ofName?_name hφ)
    (a := r.sort) (by simp [Fields.only?_eq])
  have side := decode_given_optional hkept "sideType" none _ (Json.lenient_of_reordered Side.ofName?_name hφ)
    (a := r.side) (by simp [Fields.only?_eq])
  have whereOnly := decode_given hφ hkept "whereOnly" false .bool Json.readsBack_bool (a := r.whereOnly)
    (by simp [Fields.only?_eq])
  have isResource := decode_given hφ hkept "isResourceType" false .bool Json.readsBack_bool (a := r.isResource)
    (by simp [Fields.only?_eq])
  have isIp := decode_given hφ hkept "isIpType" false .bool Json.readsBack_bool (a := r.isIp)
    (by simp [Fields.only?_eq])
  have fromSelect := decode_maybe hφ hkept "fromSelect" SelectRef.decoder SelectRef.readsBack rfl (a := r.fromSelect)
    (by simp [Fields.only?_eq])
  have uuid := decode_maybe hφ hkept "uuid" .text Json.readsBack_text rfl (a := r.uuid) (by simp [Fields.only?_eq])
  rw [Option.or_none] at sort side
  simp only [Row.fieldsDecoder, decode_map, decode_seq, kind, key, func, params, op, val, aliasName, subFuncs, preFunc,
    sort, side, whereOnly, isResource, isIp, fromSelect, uuid]
  rfl

/-! ## Forms -/

theorem AppType.readsBack : ReadsBack (Decoder.choice AppType.ofName?).decode fun t => .text t.name :=
  Json.readsBack_choice fun t => by cases t <;> rfl

theorem Format.ofName?_name (t : Format) : Format.ofName? t.name = some t := by cases t <;> rfl

theorem Decoder.readsBack_scalarText : ReadsBack Decoder.scalarText.decode .text := fun φ hφ s => by
  rw [hφ.text]
  rfl

/-- An integer of eight bits is one of 64 bits. -/
theorem Json.readsBack_int8 : ReadsBack Json.int8? fun n => .int n.toInt := fun φ hφ n => by
  have hlow := n.le_toInt
  have hhigh := n.toInt_lt
  have hfits : Decimal.fitsInt64 n.toInt = true := by
    rw [Decimal.fitsInt64, Bool.and_eq_true, decide_eq_true_eq, decide_eq_true_eq]
    simp only [leastInt64, greatestInt64]
    omega
  have hrange : -128 ≤ n.toInt ∧ n.toInt ≤ 127 := by omega
  show Json.int8? (φ (.number (.whole n.toInt))) = some n
  rw [hφ.number]
  simp [Json.int8?, Json.int64?, Json.number?, Number.int64?, hfits, hrange, Int8.ofInt_toInt]

/-- The form that is read where a form has been written: an unset format is taken for the one of a new form. -/
def Form.reread (f : Form) : Form := { f with format := f.format.or (Form.new .trafficQuery).format }

/-- A form is read back up to its format, in whatever order its fields stand. -/
theorem Form.ofJson?_reordered {φ : Json → Json} (hφ : Reordering φ) (f : Form) :
    Form.ofJson? (φ f.toJson) = some f.reread := by
  obtain ⟨fields, hobject, hkept⟩ := hφ.object _
  rw [Form.toJson, hobject]
  have appType := decode_given hφ hkept "appType" (Form.new .trafficQuery).appType _ AppType.readsBack (a := f.appType)
    (by simp [Fields.only?_eq])
  have db := decode_given hφ hkept "db" (Form.new .trafficQuery).db .text Json.readsBack_text (a := f.db)
    (by simp [Fields.only?_eq])
  have table := decode_given hφ hkept "from" (Form.new .trafficQuery).table .text Json.readsBack_text (a := f.table)
    (by simp [Fields.only?_eq])
  have sources := decode_given hφ hkept "sources" (Form.new .trafficQuery).sources .text Json.readsBack_text
    (a := f.sources) (by simp [Fields.only?_eq])
  have select := decode_given hφ hkept "select" (Form.new .trafficQuery).select (.list Row.decoder) Row.readsBack.list
    (a := f.select) (by simp [Fields.only?_eq, Form.rowsToJson])
  have filter := decode_given hφ hkept "where" (Form.new .trafficQuery).filter (.list Row.decoder) Row.readsBack.list
    (a := f.filter) (by simp [Fields.only?_eq, Form.rowsToJson])
  have having := decode_given hφ hkept "having" (Form.new .trafficQuery).having (.list Row.decoder) Row.readsBack.list
    (a := f.having) (by simp [Fields.only?_eq, Form.rowsToJson])
  have groupBy := decode_given hφ hkept "groupBy" (Form.new .trafficQuery).groupBy (.list Row.decoder)
    Row.readsBack.list (a := f.groupBy) (by simp [Fields.only?_eq, Form.rowsToJson])
  have orderBy := decode_given hφ hkept "orderBy" (Form.new .trafficQuery).orderBy (.list Row.decoder)
    Row.readsBack.list (a := f.orderBy) (by simp [Fields.only?_eq, Form.rowsToJson])
  have interval := decode_given hφ hkept "interval" (Form.new .trafficQuery).interval _ Decoder.readsBack_scalarText
    (a := f.interval) (by simp [Fields.only?_eq])
  have slimit := decode_given hφ hkept "slimit" (Form.new .trafficQuery).slimit _ Decoder.readsBack_scalarText
    (a := f.slimit) (by simp [Fields.only?_eq])
  have limit := decode_given hφ hkept "limit" (Form.new .trafficQuery).limit _ Decoder.readsBack_scalarText
    (a := f.limit) (by simp [Fields.only?_eq])
  have offset := decode_given hφ hkept "offset" (Form.new .trafficQuery).offset _ Decoder.readsBack_scalarText
    (a := f.offset) (by simp [Fields.only?_eq])
  -- a missing format is that of a new form, not an unset one
  have format := decode_given_optional hkept "formatAs" (Form.new .trafficQuery).format _ (Json.lenient_of_reordered
    Format.ofName?_name hφ) (a := f.format) (by simp [Fields.only?_eq])
  have aliasName := decode_given hφ hkept "alias" (Form.new .trafficQuery).aliasName .text Json.readsBack_text
    (a := f.aliasName) (by simp [Fields.only?_eq])
  have showMetrics := decode_given hφ hkept "showMetrics" (Form.new .trafficQuery).showMetrics .int8 Json.readsBack_int8
    (a := f.showMetrics) (by simp [Fields.only?_eq])
  have tracingId : (RecordDecoder.given "tracingId" (Form.new .trafficQuery).tracingId
      (.nullable Choice.decoder)).decode fields = some f.tracingId :=
    decode_maybe hφ hkept "tracingId" Choice.decoder Choice.readsBack rfl (by simp [Fields.only?_eq])
  simp only [Form.ofJson?, Form.decoder, Decoder.record, RecordDecoder.decodeValue, decode_map, decode_seq, appType, db,
    table, sources, select, filter, having, groupBy, orderBy, interval, slimit, limit, offset, format, aliasName,
    showMetrics, tracingId]
  rfl

theorem Form.reread_eq_iff (f : Form) : f.reread = f ↔ f.format ≠ none := by
  obtain ⟨appType, db, table, sources, select, filter, having, groupBy, orderBy, interval, slimit, limit, offset,
    format, aliasName, showMetrics, tracingId⟩ := f
  cases format <;> simp [Form.reread, Form.new]

/-- A form in a request, after its fields have been put in order, is read as the form that has been written. -/
theorem formOf_normal (f : Form) : formOf f.toJson.normal = .ok f.reread := by
  obtain ⟨fields, hobject, -⟩ := Reordering.normal.object _
  have hread := Form.ofJson?_reordered Reordering.normal f
  rw [Form.toJson, hobject] at hread ⊢
  simp only [formOf, hread]

/-- **Forms survive their JSON exactly if their format is set**; nothing but an unset format is lost. The form that an
edit gives, sent back in a request, is read just so. -/
theorem Form.round_trip (f : Form) (now : Int) (request : EditRequest) :
    Form.ofJson? f.toJson = some f.reread ∧ formOf f.toJson.normal = .ok f.reread ∧
      (f.reread = f ↔ f.format ≠ none) ∧
      (do
        let body ← ServiceRequest.perform now (.editorEdit request)
        Action.ofExcept (formOf body.normal)) = Form.reread <$> Action.editForm request := by
  refine ⟨Form.ofJson?_reordered Reordering.self f, formOf_normal f, f.reread_eq_iff, ?_⟩
  simp only [ServiceRequest.perform, bind_map_left, formOf_normal, Action.ofExcept]
  rw [map_eq_pure_bind]

/-- A form for relationships has no format until one is chosen. -/
example : formOf ((Form.new .accessRelationship).apply (.setFormat "")).toJson.normal =
    .ok (Form.new .accessRelationship) := by rfl

end PanelQuery
