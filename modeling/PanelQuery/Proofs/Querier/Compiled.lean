import PanelQuery.Proofs.Json.Normal
import PanelQuery.Proofs.Json.Printed
import PanelQuery.Querier.Compiled

/-!
# Compiled queries survive their JSON

A compiled query is read back from its JSON, alone and as the first of several resources. A metric puts its name and its
kind beside its other fields, so one that has another field of such a name is refused, and with it the whole response
(`ReturnMetric.ofJson?_toJson`, `CompiledQuery.ofResponse?_resources`). No metric that has been read is one
(`CompiledQuery.isHeld_of_ofBody`). The text of a response is read like its value as long as it is not nested too deep
(`CompiledQuery.ofBody_printed`).
-/

namespace PanelQuery

open RecordDecoder (decode_map decode_seq decode_need_of_valuesOf)

/-- Fields none of which have a name are left where that is taken out. -/
theorem Fields.erase_eq_self {name : String} {fields : Fields} (h : Fields.valuesOf name fields = []) :
    Fields.erase name fields = fields := by
  refine List.filter_eq_self.mpr fun field hfield => bne_iff_ne.mpr ?_
  rintro rfl
  have hmem : field.2 ∈ Fields.valuesOf field.1 fields :=
    List.mem_map_of_mem (List.mem_filter.mpr ⟨hfield, beq_self_eq_true _⟩)
  rw [h] at hmem
  cases hmem

/-- What is read as an integer of 64 bits is one. -/
theorem Json.fitsInt64_of_int64? {v : Json} {n : Int} (h : v.int64? = some n) : Decimal.fitsInt64 n = true := by
  obtain ⟨number, -, hnumber⟩ := Option.bind_eq_some_iff.mp h
  cases number with
  | whole k =>
    simp only [Number.int64?] at hnumber
    split at hnumber
    · next hfits => exact Option.some.inj hnumber ▸ hfits
    · cases hnumber
  | double x => cases hnumber

/-! ## Metrics -/

namespace ReturnMetric

variable {m : ReturnMetric}

/-- Whether the other fields of a metric are none that hold its name or its kind. -/
def IsPlain (m : ReturnMetric) : Prop := ∀ field ∈ m.extra, field.1 ≠ "name" ∧ field.1 ≠ "type"

instance : Decidable m.IsPlain := inferInstanceAs (Decidable (∀ field ∈ m.extra, _))

/-- Whether a metric is as programs hold it: its kind has 64 bits, and its other fields are in the order of names. -/
structure IsHeld (m : ReturnMetric) : Prop where
  kind : Decimal.fitsInt64 m.kind = true
  extra : Fields.sorted (Json.normalFields m.extra) = m.extra

/-- A metric is plain if none of its other fields has the name of one that is read. -/
theorem isPlain_iff : m.IsPlain ↔ Fields.valuesOf "name" m.extra = [] ∧ Fields.valuesOf "type" m.extra = [] := by
  simp [IsPlain, Fields.valuesOf, forall_and]

/-- The name and the kind of a metric are read if no other fields hold them. -/
theorem decode_needs (h : m.IsHeld) :
    (Prod.mk <$> RecordDecoder.need "name" .text <*> .need "type" .int64).decode
        (("name", .text m.name) :: ("type", .int m.kind) :: m.extra) =
      if m.IsPlain then some (m.name, m.kind) else none := by
  have hname : Decoder.text.decode (.text m.name) = some m.name := rfl
  have hkind : Decoder.int64.decode (.int m.kind) = some m.kind := if_pos h.kind
  have hnames : Fields.valuesOf "name" (("name", .text m.name) :: ("type", .int m.kind) :: m.extra) =
      .text m.name :: Fields.valuesOf "name" m.extra := rfl
  have hkinds : Fields.valuesOf "type" (("name", .text m.name) :: ("type", .int m.kind) :: m.extra) =
      .int m.kind :: Fields.valuesOf "type" m.extra := rfl
  rw [decode_seq, decode_map, decode_need_of_valuesOf hnames, decode_need_of_valuesOf hkinds, hname, hkind]
  by_cases hplain : m.IsPlain
  · obtain ⟨hname, hkind⟩ := isPlain_iff.mp hplain
    rw [if_pos hplain, if_pos hname, if_pos hkind]
    rfl
  · rw [if_neg hplain]
    by_cases hname : Fields.valuesOf "name" m.extra = []
    · have hkind : Fields.valuesOf "type" m.extra ≠ [] := fun hkind => hplain (isPlain_iff.mpr ⟨hname, hkind⟩)
      rw [if_pos hname, if_neg hkind]
      rfl
    · rw [if_neg hname]
      rfl

/-- The other fields of a metric are what is left without its name and its kind. -/
theorem erase_fields (h : m.IsPlain) :
    (Fields.erase "name" (("name", .text m.name) :: ("type", .int m.kind) :: m.extra)).erase "type" = m.extra := by
  obtain ⟨hname, hkind⟩ := isPlain_iff.mp h
  have herase : Fields.erase "name" (("name", .text m.name) :: ("type", .int m.kind) :: m.extra) =
      ("type", .int m.kind) :: Fields.erase "name" m.extra := rfl
  rw [herase, Fields.erase_eq_self hname]
  exact Fields.erase_eq_self hkind

/-- A metric is read back if none of its other fields hold its name or its kind; otherwise it is refused. -/
theorem ofJson?_toJson (h : m.IsHeld) : ofJson? m.toJson = if m.IsPlain then some m else none := by
  have hfields : m.toJson.fields? = some (("name", .text m.name) :: ("type", .int m.kind) :: m.extra) := rfl
  rw [ofJson?, hfields]
  show (RecordDecoder.decode _ _).bind _ = _
  rw [decode_needs h]
  by_cases hplain : m.IsPlain
  · rw [if_pos hplain, if_pos hplain]
    simp only [Option.bind_some, erase_fields hplain, h.extra]
    rfl
  · rw [if_neg hplain, if_neg hplain]
    rfl

/-- A metric that has been read is held so, and can be told from its other fields. -/
theorem isHeld_of_ofJson? {v : Json} (h : ofJson? v = some m) : m.IsHeld ∧ m.IsPlain := by
  obtain ⟨fields, -, h⟩ := Option.bind_eq_some_iff.mp h
  obtain ⟨⟨name, kind⟩, hneeds, hm⟩ := Option.bind_eq_some_iff.mp h
  cases hm
  have hfits : Decimal.fitsInt64 kind = true := by
    obtain ⟨pair, kind', hname, hkind, heq⟩ := RecordDecoder.exists_of_seq hneeds
    rw [decode_map] at hname
    obtain ⟨name', -, rfl⟩ := Option.map_eq_some_iff.mp hname
    cases heq
    obtain ⟨v, hv⟩ := RecordDecoder.exists_of_need hkind
    exact Json.fitsInt64_of_int64? hv
  refine ⟨⟨hfits, Json.sorted_normalFields_sorted _⟩, fun field hfield => ?_⟩
  obtain ⟨value, hvalue⟩ := Json.exists_of_mem_normalFields (Fields.mem_of_mem_sorted hfield)
  obtain ⟨hname, hkind⟩ := List.mem_filter.mp hvalue
  exact ⟨bne_iff_ne.mp (List.mem_filter.mp hname).2, bne_iff_ne.mp hkind⟩

end ReturnMetric

/-! ## Compiled queries -/

namespace CompiledQuery

/-- Whether all metrics of a compiled query can be told from their other fields. -/
def IsPlain (q : CompiledQuery) : Prop := ∀ m ∈ q.metrics, m.IsPlain

/-- Whether a compiled query is as programs hold it: all objects in it are in the order of names. -/
structure IsHeld (q : CompiledQuery) : Prop where
  tags : ∀ tag ∈ q.tags, tag.normal = tag
  metrics : ∀ m ∈ q.metrics, m.IsHeld

instance (q : CompiledQuery) : Decidable q.IsPlain := inferInstanceAs (Decidable (∀ m ∈ q.metrics, m.IsPlain))

def fields (q : CompiledQuery) : Fields :=
  [("sql", .text q.sql), ("returnTags", .array q.tags),
    ("returnMetrics", .array (q.metrics.map ReturnMetric.toJson))]

/-- A response with several compiled queries. -/
def resources (qs : List CompiledQuery) : Json := .object [("resource", .array (qs.map toJson))]

variable {q : CompiledQuery} {qs rest : List CompiledQuery}

theorem toJson_eq : q.toJson = .object q.fields := rfl

/-- A compiled query is read back if all its metrics are. -/
theorem decode_toJson (h : q.IsHeld) : decoder.decode q.toJson = if q.IsPlain then some q else none := by
  have sql : (RecordDecoder.need "sql" .text).decode q.fields = some q.sql := rfl
  have tags : (RecordDecoder.given "returnTags" [] (.list .any)).decode q.fields = some q.tags :=
    calc q.tags.mapM Decoder.any.decode
      _ = some (q.tags.map Json.normal) := List.mapM_pure
      _ = some q.tags := by rw [List.map_congr_left h.tags, List.map_id']
  have metrics : (RecordDecoder.given "returnMetrics" [] (.list ReturnMetric.decoder)).decode q.fields =
      if q.IsPlain then some q.metrics else none :=
    Json.mapM_map_of_ite fun m hm => ReturnMetric.ofJson?_toJson (h.metrics m hm)
  simp only [decoder, Decoder.record, toJson_eq, RecordDecoder.decodeValue, decode_map, decode_seq, sql, tags, metrics]
  split <;> rfl

/-- A compiled query is read back exactly if it is plain. -/
theorem ofResponse?_toJson (h : q.IsHeld) : ofResponse? q.toJson = if q.IsPlain then some [q] else none := by
  have hresource : (q.toJson.fields?.bind (RecordDecoder.need "resource" (.list decoder)).decode) = none := rfl
  rw [ofResponse?, hresource, decode_toJson h]
  split <;> rfl

/-- Compiled queries are read back exactly if all of them are plain. -/
theorem ofResponse?_resources (h : ∀ q ∈ qs, q.IsHeld) :
    ofResponse? (resources qs) = if ∀ q ∈ qs, q.IsPlain then some qs else none := by
  have hresources : (RecordDecoder.need "resource" (.list decoder)).decode
        [("resource", .array (qs.map toJson))] = if ∀ q ∈ qs, q.IsPlain then some qs else none :=
    Json.mapM_map_of_ite fun q hq => decode_toJson (h q hq)
  have hdirect : decoder.decode (resources qs) = none := rfl
  rw [ofResponse?, hdirect]
  show ((RecordDecoder.need "resource" (.list decoder)).decode _).or _ = _
  rw [hresources]
  split <;> rfl

/-! ## Compiled queries that have been read -/

theorem normal_of_decode_any {v : Json} {tags : List Json} (h : (Decoder.list .any).decode v = some tags) :
    ∀ tag ∈ tags, tag.normal = tag :=
  Json.forall_of_listOf (fun v _ htag => Option.some.inj htag ▸ Json.normal_normal v) h

/-- A compiled query that has been read is held so, and all its metrics can be told from their other fields. -/
theorem isHeld_of_decode {v : Json} (h : decoder.decode v = some q) : q.IsHeld ∧ q.IsPlain := by
  obtain ⟨fields, hfields⟩ := RecordDecoder.exists_of_decodeValue h
  obtain ⟨f, metrics, hf, hmetrics, rfl⟩ := RecordDecoder.exists_of_seq hfields
  obtain ⟨g, tags, hg, htags, rfl⟩ := RecordDecoder.exists_of_seq hf
  rw [decode_map] at hg
  obtain ⟨sql, -, rfl⟩ := Option.map_eq_some_iff.mp hg
  have htags : ∀ tag ∈ tags, tag.normal = tag := by
    rcases RecordDecoder.exists_of_given htags with rfl | ⟨v, hv⟩
    · exact List.forall_mem_nil _
    · exact normal_of_decode_any hv
  have hmetrics : ∀ m ∈ metrics, m.IsHeld ∧ m.IsPlain := by
    rcases RecordDecoder.exists_of_given hmetrics with rfl | ⟨v, hv⟩
    · exact List.forall_mem_nil _
    · exact Json.forall_of_listOf (fun v m hm => ReturnMetric.isHeld_of_ofJson? hm) hv
  exact ⟨⟨htags, fun m hm => (hmetrics m hm).1⟩, fun m hm => (hmetrics m hm).2⟩

/-- What is read off a response is held and plain. -/
theorem isHeld_of_ofResponse? {v : Json} (h : ofResponse? v = some qs) : ∀ q ∈ qs, q.IsHeld ∧ q.IsPlain := by
  rcases Option.or_eq_some_iff.mp h with h | ⟨-, h⟩
  · obtain ⟨fields, -, h⟩ := Option.bind_eq_some_iff.mp h
    obtain ⟨v, hv⟩ := RecordDecoder.exists_of_need h
    exact Json.forall_of_listOf (fun v q hq => isHeld_of_decode hq) hv
  · obtain ⟨q, hq, rfl⟩ := Option.map_eq_some_iff.mp h
    exact List.forall_mem_singleton.mpr (isHeld_of_decode hq)

/-- The compiled query of a response is held so, and its metrics can be told from their other fields. -/
theorem isHeld_of_ofBody {body : String} (h : ofBody body = .ok q) : q.IsHeld ∧ q.IsPlain := by
  unfold ofBody at h
  split at h
  · cases h
  · cases h
  · next query rest hread =>
    cases h
    obtain ⟨v, hv⟩ := Decoder.exists_of_read hread
    exact isHeld_of_ofResponse? hv q List.mem_cons_self

/-! ## Texts of responses -/

/-- Whether all numbers in the parts of a compiled query are read from their texts. -/
structure IsExact (q : CompiledQuery) : Prop where
  tags : ∀ tag ∈ q.tags, tag.IsExact
  extras : ∀ m ∈ q.metrics, ∀ field ∈ m.extra, field.2.IsExact

theorem isExact_toJson (hheld : q.IsHeld) (hexact : q.IsExact) : q.toJson.IsExact := by
  have hmetric : ∀ m ∈ q.metrics, m.toJson.IsExact := fun m hm => by
    have hkind : (Json.int m.kind).IsExact := by
      have hfits := (hheld.metrics m hm).kind
      rw [Decimal.fitsInt64, Bool.and_eq_true, decide_eq_true_eq, decide_eq_true_eq, greatestInt64] at hfits
      have hlimit : (Json.Numeral.wordLimit : Int) = 18446744073709551616 := rfl
      exact Number.isExact_whole hfits.1 (by omega)
    exact ⟨trivial, hkind, Json.areFieldsExact_iff.mpr (hexact.extras m hm)⟩
  exact ⟨trivial, Json.areExact_iff.mpr hexact.tags,
    Json.areExact_iff.mpr (List.forall_mem_map.mpr hmetric), trivial⟩

/-- A query without tags and metrics is held so. -/
theorem isHeld_bare (sql : String) : IsHeld ⟨sql, [], []⟩ := ⟨List.forall_mem_nil _, List.forall_mem_nil _⟩

theorem isExact_bare (sql : String) : IsExact ⟨sql, [], []⟩ := ⟨List.forall_mem_nil _, List.forall_mem_nil _⟩

theorem isExact_resources (hheld : ∀ q ∈ qs, q.IsHeld) (hexact : ∀ q ∈ qs, q.IsExact) : (resources qs).IsExact :=
  ⟨Json.areExact_iff.mpr (List.forall_mem_map.mpr fun q hq => isExact_toJson (hheld q hq) (hexact q hq)), trivial⟩

/-- A printed response is read as its value if it is not nested too deep. -/
theorem ofBody_of_some {v : Json} (h : v.IsExact) (hv : ofResponse? v = some (q :: rest)) :
    ofBody v.compress =
      if v.depth ≤ Json.maxOpen then .ok q else .error (.decode "invalid compiler response") := by
  rw [ofBody, Decoder.whole_read_compress h, hv]
  by_cases hdepth : v.depth ≤ Json.maxOpen
  · rw [if_pos hdepth, if_pos hdepth]
    rfl
  · rw [if_neg hdepth, if_neg hdepth]

/-- A body without a compiled query is refused. -/
theorem ofBody_of_none {v : Json} (h : v.IsExact) (hv : ofResponse? v = none) :
    ofBody v.compress = .error (.decode "invalid compiler response") := by
  rw [ofBody, Decoder.whole_read_compress h, hv]
  by_cases hdepth : v.depth ≤ Json.maxOpen
  · rw [if_pos hdepth]
    rfl
  · rw [if_neg hdepth]

/-- A response is refused if one of its queries cannot be told from its other fields. -/
theorem ofBody_of_not_isPlain (hheld : ∀ c ∈ qs, c.IsHeld) (hexact : ∀ c ∈ qs, c.IsExact)
    (h : ¬∀ c ∈ qs, c.IsPlain) : ofBody (resources qs).compress = .error (.decode "invalid compiler response") :=
  ofBody_of_none (isExact_resources hheld hexact) ((ofResponse?_resources hheld).trans (if_neg h))

/-- A compiled query that has been read is read back from its own text, if that is not nested too deep. -/
theorem ofBody_reread {body : String} (h : ofBody body = .ok q) (hexact : q.IsExact) :
    ofBody q.toJson.compress =
      if q.toJson.depth ≤ Json.maxOpen then .ok q else .error (.decode "invalid compiler response") := by
  obtain ⟨hheld, hplain⟩ := isHeld_of_ofBody h
  exact ofBody_of_some (isExact_toJson hheld hexact) ((ofResponse?_toJson hheld).trans (if_pos hplain))

/-- **Compiled queries survive their JSON.** Printed alone, a compiled query whose metrics can be told from their other
fields is read back exactly if it is not nested too deep. Printed before others it is read back exactly if the metrics
of these can be told so too, and the response is not nested too deep; otherwise the response is refused. -/
theorem ofBody_printed (hheld : ∀ c ∈ q :: rest, c.IsHeld) (hexact : ∀ c ∈ q :: rest, c.IsExact) (hplain : q.IsPlain) :
    (ofBody q.toJson.compress =
      if q.toJson.depth ≤ Json.maxOpen then .ok q else .error (.decode "invalid compiler response")) ∧
    ofBody (resources (q :: rest)).compress =
      if (∀ c ∈ rest, c.IsPlain) ∧ (resources (q :: rest)).depth ≤ Json.maxOpen then .ok q
      else .error (.decode "invalid compiler response") := by
  constructor
  · have hq : q ∈ q :: rest := List.mem_cons_self
    have hvalue := (ofResponse?_toJson (hheld q hq)).trans (if_pos hplain)
    exact ofBody_of_some (isExact_toJson (hheld q hq) (hexact q hq)) hvalue
  · by_cases hrest : ∀ c ∈ rest, c.IsPlain
    · have hall : ∀ c ∈ q :: rest, c.IsPlain := List.forall_mem_cons.mpr ⟨hplain, hrest⟩
      have hvalue := (ofResponse?_resources hheld).trans (if_pos hall)
      simp only [ofBody_of_some (isExact_resources hheld hexact) hvalue, and_iff_right hrest]
    · rw [ofBody_of_not_isPlain hheld hexact fun hall => hrest (List.forall_mem_cons.mp hall).2,
        if_neg fun h => hrest h.1]

/-- A query with a tag, a metric and another field of it, alone and before a second one. -/
theorem ofBody_printed_two :
    let q : CompiledQuery := ⟨"SELECT 1", [.array [.text "pod"]], [⟨"byte", 1, [("unit", .int (-1))]⟩]⟩
    let other : CompiledQuery := ⟨"SELECT 2", [], []⟩
    (∀ c ∈ [q, other], c.IsHeld) ∧ (∀ c ∈ [q, other], c.IsExact) ∧ q.IsPlain ∧
      ofBody q.toJson.compress = .ok q ∧ ofBody (resources [q, other]).compress = .ok q := by
  intro q other
  have hheld : ∀ c ∈ [q, other], c.IsHeld :=
    List.forall_mem_cons.mpr ⟨⟨List.forall_mem_singleton.mpr rfl, List.forall_mem_singleton.mpr ⟨rfl, rfl⟩⟩,
      List.forall_mem_singleton.mpr (isHeld_bare _)⟩
  have hnumber : (Json.int (-1)).IsExact := Number.isExact_whole (by decide) (by decide)
  have hexact : ∀ c ∈ [q, other], c.IsExact :=
    List.forall_mem_cons.mpr ⟨⟨List.forall_mem_singleton.mpr ⟨trivial, trivial⟩,
      List.forall_mem_singleton.mpr (List.forall_mem_singleton.mpr hnumber)⟩,
      List.forall_mem_singleton.mpr (isExact_bare _)⟩
  have hplain : q.IsPlain := by decide
  obtain ⟨hself, hfirst⟩ := ofBody_printed hheld hexact hplain
  exact ⟨hheld, hexact, hplain, hself.trans (if_pos (by decide)), hfirst.trans (if_pos (by decide))⟩

/-- Arrays inside each other, `n` of them around an empty one. -/
def nest : Nat → Json
  | 0 => .array []
  | n + 1 => .array [nest n]

theorem depth_nest : ∀ n : Nat, (nest n).depth = n + 1
  | 0 => rfl
  | n + 1 => by rw [nest, Json.depth, Json.depthOfItems, Json.depthOfItems, depth_nest n, Nat.max_zero]

theorem normal_nest : ∀ n : Nat, (nest n).normal = nest n
  | 0 => rfl
  | n + 1 => by rw [nest, Json.normal, Json.normalItems, Json.normalItems, normal_nest n]

theorem isExact_nest : ∀ n : Nat, (nest n).IsExact
  | 0 => trivial
  | n + 1 => ⟨isExact_nest n, trivial⟩

theorem isHeld_nest (n : Nat) : IsHeld ⟨"", [nest n], []⟩ :=
  ⟨List.forall_mem_singleton.mpr (normal_nest n), List.forall_mem_nil _⟩

theorem isExact_of_nest (n : Nat) : IsExact ⟨"", [nest n], []⟩ :=
  ⟨List.forall_mem_singleton.mpr (isExact_nest n), List.forall_mem_nil _⟩

/-- A query is refused whose tag is nested too deep. -/
theorem refused_of_nest {n : Nat} (h : 125 ≤ n) :
    ofBody (toJson ⟨"", [nest n], []⟩).compress = .error (.decode "invalid compiler response") := by
  have hdepth : (toJson ⟨"", [nest n], []⟩).depth = n + 3 := by
    simp [toJson, Json.depth, Json.depthOfFields, Json.depthOfItems, depth_nest]
  have hdeep : ¬(toJson ⟨"", [nest n], []⟩).depth ≤ Json.maxOpen := by
    rw [hdepth, Json.maxOpen]
    omega
  have hvalue := (ofResponse?_toJson (isHeld_nest n)).trans (if_pos (by decide : IsPlain ⟨"", [], []⟩))
  rw [ofBody_of_some (isExact_toJson (isHeld_nest n) (isExact_of_nest n)) hvalue, if_neg hdeep]

/-- A query whose tag is nested too deep is refused, and so is one before a query with a metric of two names. -/
theorem ofBody_printed_refused :
    (∃ q : CompiledQuery, q.IsHeld ∧ q.IsExact ∧ q.IsPlain ∧ ofBody q.toJson.compress ≠ .ok q) ∧
    ∃ q other : CompiledQuery, (∀ c ∈ [q, other], c.IsHeld) ∧ (∀ c ∈ [q, other], c.IsExact) ∧ q.IsPlain ∧
      ofBody (resources [q, other]).compress ≠ .ok q := by
  refine ⟨⟨⟨"", [nest 125], []⟩, isHeld_nest 125, isExact_of_nest 125, by decide, ?_⟩,
    ⟨"SELECT 1", [], []⟩, ⟨"SELECT 2", [], [⟨"byte", 1, [("name", .int 5)]⟩]⟩, ?_⟩
  · rw [refused_of_nest (Nat.le_refl 125)]
    exact nofun
  · have hnumber : (Json.int 5).IsExact := Number.isExact_whole (by decide) (by decide)
    have hheld : ∀ c ∈ [⟨"SELECT 1", [], []⟩, ⟨"SELECT 2", [], [⟨"byte", 1, [("name", .int 5)]⟩]⟩], IsHeld c :=
      List.forall_mem_cons.mpr ⟨isHeld_bare _,
        List.forall_mem_singleton.mpr ⟨List.forall_mem_nil _, List.forall_mem_singleton.mpr ⟨rfl, rfl⟩⟩⟩
    have hexact : ∀ c ∈ [⟨"SELECT 1", [], []⟩, ⟨"SELECT 2", [], [⟨"byte", 1, [("name", .int 5)]⟩]⟩], IsExact c :=
      List.forall_mem_cons.mpr ⟨isExact_bare _, List.forall_mem_singleton.mpr ⟨List.forall_mem_nil _,
        List.forall_mem_singleton.mpr (List.forall_mem_singleton.mpr hnumber)⟩⟩
    refine ⟨hheld, hexact, by decide, ?_⟩
    rw [ofBody_of_not_isPlain hheld hexact (by decide)]
    exact nofun

end CompiledQuery
end PanelQuery
