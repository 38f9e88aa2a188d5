import PanelQuery.Form.Codec

/-!
# Values up to the order of their fields

A reader of records looks fields up by name, so the order of the fields of an object does not matter to it.
`Fields.valuesOf name` lists the values under a name, and `Fields.only?` finds the only one (`only?_eq`). A *reordering*
(`Json.Reordering`) keeps simple values and arrays as they are and, in an object, the only value of each name; leaving
a value as it is is one (`Reordering.self`), and so is putting all its objects in the order of their names
(`Reordering.normal`). A decoder reads an encoder back (`Json.ReadsBack`) if it gives the encoded value after every
reordering.
-/

namespace PanelQuery

/-! ## Fields by name -/

namespace Fields

/-- The values under a name, in order. -/
def valuesOf (name : String) (fields : Fields) : List Json :=
  (fields.filter fun field => field.1 == name).map Prod.snd

/-- The only value of a list of values, if there is one; nothing where there are several. -/
def sole? : List Json → Option (Option Json)
  | [] => some none
  | [value] => some (some value)
  | _ => none

theorem only?_eq (name : String) (fields : Fields) : only? name fields = sole? (valuesOf name fields) := by
  unfold only? valuesOf
  generalize (fields.filter fun field => field.1 == name) = found
  match found with
  | [] => rfl
  | [_] => rfl
  | _ :: _ :: _ => rfl

@[simp] theorem valuesOf_nil (name : String) : valuesOf name [] = [] := rfl

@[simp] theorem valuesOf_cons (name other : String) (value : Json) (rest : Fields) :
    valuesOf name ((other, value) :: rest) =
      if other = name then value :: valuesOf name rest else valuesOf name rest := by
  by_cases h : other = name <;> simp [valuesOf, h]

@[simp] theorem valuesOf_append (name : String) (fs gs : Fields) :
    valuesOf name (fs ++ gs) = valuesOf name fs ++ valuesOf name gs := by
  simp [valuesOf]

@[simp] theorem valuesOf_optional (name other : String) (encode : α → Json) (a : Option α) :
    valuesOf name (Fields.optional other encode a) = if other = name then (a.map encode).toList else [] := by
  cases a <;> simp [Fields.optional]

@[simp] theorem valuesOf_onlyIf (name other : String) (condition : Bool) (value : Json) :
    valuesOf name (Fields.onlyIf condition other value) =
      if other = name then (if condition then some value else none).toList else [] := by
  cases condition <;> simp [Fields.onlyIf]

theorem valuesOf_map (name : String) (key : α → String) (value : α → Json) (items : List α) :
    valuesOf name (items.map fun item => (key item, value item)) =
      (items.filter fun item => key item == name).map value := by
  rw [valuesOf, List.filter_map, List.map_map]
  rfl

/-- Fields whose values depend on their names have that value under each name. -/
theorem getLast?_valuesOf_map (name : String) (key : α → String) (value : String → Json) (items : List α) :
    (valuesOf name (items.map fun item => (key item, value (key item)))).getLast? =
      if ∃ item ∈ items, key item = name then some (value name) else none := by
  rw [valuesOf_map, List.getLast?_map]
  cases hlast : (items.filter fun item => key item == name).getLast? with
  | none =>
    have hnone := List.getLast?_eq_none_iff.mp hlast
    rw [if_neg fun ⟨item, hitem, hname⟩ => List.filter_eq_nil_iff.mp hnone item hitem (beq_iff_eq.mpr hname)]
    rfl
  | some item =>
    obtain ⟨hitem, hname⟩ := List.mem_filter.mp (List.mem_of_mem_getLast? hlast)
    rw [if_pos ⟨item, hitem, beq_iff_eq.mp hname⟩, Option.map_some, beq_iff_eq.mp hname]

theorem valuesOf_flatMap (name : String) (fields : α → Fields) (items : List α) :
    valuesOf name (items.flatMap fields) = items.flatMap fun item => valuesOf name (fields item) := by
  induction items with
  | nil => rfl
  | cons item rest ih => rw [List.flatMap_cons, valuesOf_append, ih, List.flatMap_cons]

theorem get?_eq_head? (name : String) : ∀ fields : Fields, get? name fields = (valuesOf name fields).head?
  | [] => rfl
  | (other, value) :: rest => by
    rw [get?, valuesOf_cons]
    split
    · rfl
    · exact get?_eq_head? name rest

@[simp] theorem sole?_nil : sole? [] = some none := rfl

@[simp] theorem sole?_singleton (value : Json) : sole? [value] = some (some value) := rfl

@[simp] theorem sole?_toList (value : Option Json) : sole? value.toList = some value := by
  cases value <;> rfl

theorem eq_toList_of_sole? {values : List Json} {value : Option Json} (h : sole? values = some value) :
    values = value.toList := by
  match values, h with
  | [], h => cases h; rfl
  | [_], h => cases h; rfl

theorem get?_mapValues (name : String) (f : Json → Json) : ∀ fields : Fields,
    get? name (fields.map fun (other, value) => (other, f value)) = (get? name fields).map f
  | [] => rfl
  | (other, value) :: rest => by
    rw [List.map_cons, get?, get?, get?_mapValues name f rest]
    split <;> rfl

/-! ## Fields in order -/

/-- Names strictly ascend. -/
def Ascending (fields : Fields) : Prop := fields.Pairwise fun f g => f.1 < g.1

theorem lt_of_not_lt_of_ne {a b : String} (h : ¬a < b) (hne : b ≠ a) : b < a :=
  Decidable.byContradiction fun h' => hne (String.le_antisymm (String.not_lt.mp h) (String.not_lt.mp h'))

/-- What is put among fields was there, or is the new field. -/
theorem mem_put {name : String} {value : Json} {field : String × Json} :
    ∀ {fields : Fields}, field ∈ put name value fields → field = (name, value) ∨ field ∈ fields
  | [], h => by simpa [put] using h
  | (other, held) :: rest, h => by
    unfold put at h
    split at h
    · exact List.mem_cons.mp h
    · split at h
      · rcases List.mem_cons.mp h with h | h
        · exact .inl h
        · exact .inr (List.mem_cons_of_mem _ h)
      · rcases List.mem_cons.mp h with h | h
        · exact .inr (h ▸ List.mem_cons_self)
        · exact (mem_put h).imp_right (List.mem_cons_of_mem _)

theorem put_ascending {name : String} {value : Json} :
    ∀ {fields : Fields}, Ascending fields → Ascending (put name value fields)
  | [], _ => List.pairwise_singleton _ _
  | (other, held) :: rest, h => by
    obtain ⟨hlt, hrest⟩ := List.pairwise_cons.mp h
    unfold put
    split
    · next hn =>
      refine List.pairwise_cons.mpr ⟨fun field hf => ?_, h⟩
      rcases List.mem_cons.mp hf with rfl | hf
      · exact hn
      · exact String.lt_trans hn (hlt field hf)
    · next hn =>
      split
      · next he => subst he; exact List.pairwise_cons.mpr ⟨hlt, hrest⟩
      · next he =>
        refine List.pairwise_cons.mpr ⟨fun field hf => ?_, put_ascending hrest⟩
        rcases mem_put hf with rfl | hf
        · exact lt_of_not_lt_of_ne hn (Ne.symm he)
        · exact hlt field hf

theorem ascending_foldl_put {added fields : Fields} (h : Ascending fields) :
    Ascending (added.foldl (fun held field => put field.1 field.2 held) fields) := by
  induction added generalizing fields with
  | nil => exact h
  | cons field rest ih => exact ih (put_ascending h)

/-- Names below all names of ascending fields have no values among them. -/
theorem valuesOf_of_lt {name : String} {fields : Fields} (h : ∀ field ∈ fields, name < field.1) :
    valuesOf name fields = [] := by
  induction fields with
  | nil => rfl
  | cons field rest ih =>
    have hne : field.1 ≠ name := (String.ne_of_lt (h field List.mem_cons_self)).symm
    rw [valuesOf_cons, if_neg hne]
    exact ih fun g hg => h g (List.mem_cons_of_mem _ hg)

theorem valuesOf_put (name other : String) (value : Json) :
    ∀ {fields : Fields}, Ascending fields →
      valuesOf name (put other value fields) = if other = name then [value] else valuesOf name fields
  | [], _ => by simp [put]
  | (first, held) :: rest, h => by
    obtain ⟨hlt, hrest⟩ := List.pairwise_cons.mp h
    unfold put
    split
    · next hn =>
      have hnone : other = name → valuesOf name ((first, held) :: rest) = [] := by
        rintro rfl
        refine valuesOf_of_lt fun field hf => ?_
        rcases List.mem_cons.mp hf with rfl | hf
        · exact hn
        · exact String.lt_trans hn (hlt field hf)
      rw [valuesOf_cons]
      split
      · next he => rw [hnone he]
      · rfl
    · split
      · next he =>
        subst he
        simp only [valuesOf_cons]
        split
        · next he => rw [valuesOf_of_lt fun field hf => he ▸ hlt field hf]
        · rfl
      · next he =>
        rw [valuesOf_cons, valuesOf_put name other value hrest, valuesOf_cons]
        by_cases hname : other = name
        · subst hname; simp [Ne.symm he]
        · simp [hname]

/-- Sorting keeps the last value of each name. -/
theorem valuesOf_foldl_put (name : String) : ∀ (fields held : Fields), Ascending held →
    valuesOf name (fields.foldl (fun held field => put field.1 field.2 held) held) =
      ((valuesOf name fields).getLast?.map fun value => [value]).getD (valuesOf name held)
  | [], held, _ => by simp
  | (other, value) :: rest, held, h => by
    rw [List.foldl_cons, valuesOf_foldl_put name rest _ (put_ascending h), valuesOf_put _ _ _ h, valuesOf_cons]
    by_cases hname : other = name
    · rw [if_pos hname, if_pos hname, List.getLast?_cons]
      cases (valuesOf name rest).getLast? <;> rfl
    · rw [if_neg hname, if_neg hname]

/-- The last value of a name is found once fields are sorted. -/
theorem get?_sorted (name : String) (fields : Fields) :
    get? name (sorted fields) = (valuesOf name fields).getLast? := by
  rw [get?_eq_head?, sorted, valuesOf_foldl_put name fields [] List.Pairwise.nil]
  cases (valuesOf name fields).getLast? <;> rfl

/-- Sorting keeps the only value of a name. -/
theorem only?_sorted {name : String} {fields : Fields} {value : Option Json} (h : only? name fields = some value) :
    only? name (sorted fields) = some value := by
  rw [only?_eq] at h ⊢
  rw [sorted, valuesOf_foldl_put name fields [] List.Pairwise.nil, eq_toList_of_sole? h]
  cases value <;> rfl

end Fields

/-! ## Reorderings -/

/-- Whatever is the only value of a name among the written fields is, once changed, the only one among the others. -/
def Fields.Kept (φ : Json → Json) (written fields : Fields) : Prop :=
  ∀ name value, Fields.only? name written = some value → Fields.only? name fields = some (value.map φ)

namespace Json

/-- A change of values that keeps what readers see of them: simple values and arrays as they are, and in an object the
only value of each name. -/
structure Reordering (φ : Json → Json) : Prop where
  null : φ null = null
  bool : ∀ b, φ (bool b) = bool b
  number : ∀ n, φ (number n) = number n
  text : ∀ s, φ (text s) = text s
  array : ∀ items, φ (array items) = array (items.map φ)
  object : ∀ written, ∃ fields, φ (object written) = object fields ∧ Fields.Kept φ written fields

/-- Leaving values as they are is a reordering. -/
theorem Reordering.self : Reordering fun value => value where
  null := rfl
  bool _ := rfl
  number _ := rfl
  text _ := rfl
  array items := by rw [List.map_id']
  object fields := ⟨fields, rfl, fun name value h => by rw [Option.map_id']; exact h⟩

theorem normalItems_eq : ∀ items : List Json, normalItems items = items.map normal
  | [] => rfl
  | item :: rest => by rw [normalItems, normalItems_eq rest]; rfl

theorem valuesOf_normalFields (name : String) : ∀ fields : Fields,
    Fields.valuesOf name (normalFields fields) = (Fields.valuesOf name fields).map normal
  | [] => rfl
  | (other, value) :: rest => by
    rw [normalFields, Fields.valuesOf_cons, Fields.valuesOf_cons, valuesOf_normalFields name rest]
    split <;> rfl

/-- Putting all objects in the order of their names is a reordering. -/
theorem Reordering.normal : Reordering Json.normal where
  null := by rw [Json.normal] <;> simp
  bool _ := by rw [Json.normal] <;> simp
  number _ := by rw [Json.normal] <;> simp
  text _ := by rw [Json.normal] <;> simp
  array items := by rw [Json.normal, normalItems_eq]
  object written := by
    refine ⟨Fields.sorted (normalFields written), by rw [Json.normal]; rfl, fun name value h => ?_⟩
    apply Fields.only?_sorted
    rw [Fields.only?_eq] at h ⊢
    rw [valuesOf_normalFields, Fields.eq_toList_of_sole? h]
    cases value <;> rfl

/-! ## Reading back -/

/-- What the encoder writes is read back by the decoder, after every reordering. -/
def ReadsBack (decode : Json → Option α) (encode : α → Json) : Prop :=
  ∀ φ, Reordering φ → ∀ a, decode (φ (encode a)) = some a

theorem readsBack_text : ReadsBack text? text := fun φ hφ s => by rw [hφ.text]; rfl

theorem readsBack_bool : ReadsBack bool? bool := fun φ hφ b => by rw [hφ.bool]; rfl

/-- A value of an enumeration is read back by its name. -/
theorem readsBack_choice {ofName? : String → Option α} {name : α → String} (h : ∀ a, ofName? (name a) = some a) :
    ReadsBack (Decoder.choice ofName?).decode fun a => text (name a) := fun φ hφ a => by
  rw [hφ.text]
  exact h a

/-- So is one that may be left unset. -/
theorem lenient_of_reordered {ofName? : String → Option α} {name : α → String} (h : ∀ a, ofName? (name a) = some a)
    {φ : Json → Json} (hφ : Reordering φ) (a : α) :
    (Decoder.lenient ofName?).decode (φ (text (name a))) = some (some a) := by
  rw [hφ.text]
  exact congrArg some (h a)

theorem ReadsBack.mapM {decode : Json → Option α} {encode : α → Json} (h : ReadsBack decode encode)
    {φ : Json → Json} (hφ : Reordering φ) : ∀ items : List α, ((items.map encode).map φ).mapM decode = some items
  | [] => rfl
  | a :: rest => by
    rw [List.map_cons, List.map_cons, List.mapM_cons, h φ hφ a, h.mapM hφ rest]
    rfl

/-- A list is read back if its items are. -/
theorem ReadsBack.list {decode : Json → Option α} {encode : α → Json} (h : ReadsBack decode encode) :
    ReadsBack (listOf decode) fun items => array (items.map encode) := fun φ hφ items => by
  rw [hφ.array]
  exact h.mapM hφ items

/-- Items that are read back under a condition are read back if all of them meet it. -/
theorem mapM_map_of_ite {decode : Json → Option α} {encode : α → Json} {P : α → Prop} [DecidablePred P] :
    ∀ {items : List α}, (∀ a ∈ items, decode (encode a) = if P a then some a else none) →
      (items.map encode).mapM decode = if ∀ a ∈ items, P a then some items else none
  | [], _ => by rw [if_pos (List.forall_mem_nil P)]; rfl
  | a :: rest, h => by
    have hrest : (rest.map encode).mapM decode = if ∀ b ∈ rest, P b then some rest else none :=
      mapM_map_of_ite fun b hb => h b (List.mem_cons_of_mem _ hb)
    rw [List.map_cons, List.mapM_cons, h a List.mem_cons_self, hrest]
    by_cases ha : P a
    · by_cases hall : ∀ b ∈ rest, P b
      · rw [if_pos ha, if_pos hall, if_pos (List.forall_mem_cons.mpr ⟨ha, hall⟩)]
        rfl
      · rw [if_pos ha, if_neg hall, if_neg fun h => hall (List.forall_mem_cons.mp h).2]
        rfl
    · rw [if_neg ha, if_neg fun h => ha (List.forall_mem_cons.mp h).1]
      rfl

theorem forall_of_mapM {decode : Json → Option α} {P : α → Prop} (h : ∀ v a, decode v = some a → P a) :
    ∀ {vs : List Json} {items : List α}, vs.mapM decode = some items → ∀ a ∈ items, P a
  | [], _, hitems => by
    cases hitems
    exact List.forall_mem_nil _
  | v :: vs, _, hitems => by
    rw [List.mapM_cons] at hitems
    obtain ⟨a, ha, hlist⟩ := Option.bind_eq_some_iff.mp hitems
    obtain ⟨rest, hrest, heq⟩ := Option.bind_eq_some_iff.mp hlist
    cases heq
    exact List.forall_mem_cons.mpr ⟨h v a ha, forall_of_mapM h hrest⟩

/-- What holds of every item that is read holds of the items of a list. -/
theorem forall_of_listOf {decode : Json → Option α} {P : α → Prop} (h : ∀ v a, decode v = some a → P a) {v : Json}
    {items : List α} (hitems : listOf decode v = some items) : ∀ a ∈ items, P a := by
  cases v with
  | array vs => exact forall_of_mapM h hitems
  | _ => cases hitems

/-- A record is read back if its fields are, wherever they are kept. -/
theorem ReadsBack.record {d : RecordDecoder α} {encode : α → Fields}
    (h : ∀ φ, Reordering φ → ∀ a fields, Fields.Kept φ (encode a) fields → d.decode fields = some a) :
    ReadsBack (Decoder.record d).decode fun a => object (encode a) := fun φ hφ a => by
  obtain ⟨fields, hobject, hkept⟩ := hφ.object (encode a)
  rw [hobject]
  exact h φ hφ a fields hkept

theorem nullable_of_some {decode : Json → Option α} {value : Json} {a : α} (hnull : decode null = none)
    (h : decode value = some a) : nullable decode value = some (some a) := by
  cases value with
  | null => rw [hnull] at h; cases h
  | _ => simp [nullable, h]

/-- What is not read from null is read back where null may stand too. -/
theorem ReadsBack.nullable {decode : Json → Option α} {encode : α → Json} (h : ReadsBack decode encode)
    (hnull : decode null = none) {φ : Json → Json} (hφ : Reordering φ) (a : α) :
    Json.nullable decode (φ (encode a)) = some (some a) :=
  nullable_of_some hnull (h φ hφ a)

end Json

/-! ## Fields of records -/

namespace RecordDecoder

open Json (Reordering ReadsBack)

@[simp] theorem decode_map (f : α → β) (d : RecordDecoder α) (fields : Fields) :
    (f <$> d).decode fields = (d.decode fields).map f := rfl

@[simp] theorem decode_seq (f : RecordDecoder (α → β)) (d : RecordDecoder α) (fields : Fields) :
    (f <*> d).decode fields = f.decode fields <*> d.decode fields := rfl

variable {φ : Json → Json} {written fields : Fields}

/-- A field that has to be there is read if there is only one of its name. -/
theorem decode_need_of_valuesOf {name : String} {d : Decoder α} {v : Json}
    {rest : List Json} (h : Fields.valuesOf name fields = v :: rest) :
    (need name d).decode fields = if rest = [] then d.decode v else none := by
  cases rest with
  | nil => simp [need, Fields.only?_eq, h]
  | cons other rest => simp [need, Fields.only?_eq, h, Fields.sole?]

/-- A field that has to be there is read back. -/
theorem decode_need (hφ : Reordering φ) (hkept : Fields.Kept φ written fields) (name : String) (d : Decoder α)
    {encode : α → Json} (h : ReadsBack d.decode encode) {a : α}
    (hw : Fields.only? name written = some (some (encode a))) : (need name d).decode fields = some a := by
  simp [need, hkept name _ hw, h φ hφ a]

/-- A field with a default is read back if it has been written. -/
theorem decode_given (hφ : Reordering φ) (hkept : Fields.Kept φ written fields) (name : String) (default : α)
    (d : Decoder α) {encode : α → Json} (h : ReadsBack d.decode encode) {a : α}
    (hw : Fields.only? name written = some (some (encode a))) : (given name default d).decode fields = some a := by
  simp [given, hkept name _ hw, h φ hφ a]

/-- A field that is written only under a condition is read back if it is the default where it is left out. -/
theorem decode_given_onlyIf (hφ : Reordering φ) (hkept : Fields.Kept φ written fields) (name : String) (default : α)
    (d : Decoder α) {encode : α → Json} (h : ReadsBack d.decode encode) {a : α} (condition : Bool)
    (hdefault : condition = false → a = default)
    (hw : Fields.only? name written = some (if condition then some (encode a) else none)) :
    (given name default d).decode fields = some a := by
  cases condition with
  | true => exact decode_given hφ hkept name default d h hw
  | false => simp [given, hkept name _ hw, hdefault rfl]

/-- A field that is left out where it is unset is read as the default there. -/
theorem decode_given_optional (hkept : Fields.Kept φ written fields) (name : String) (default : Option α)
    (d : Decoder (Option α)) {encode : α → Json} (h : ∀ a, d.decode (φ (encode a)) = some (some a)) {a : Option α}
    (hw : Fields.only? name written = some (a.map encode)) :
    (given name default d).decode fields = some (a.or default) := by
  cases a with
  | none => simp [given, hkept name _ hw]
  | some a => simp [given, hkept name _ hw, h a]

/-- A field that is left out where it is unset is read back if a missing one is unset. -/
theorem decode_maybe (hφ : Reordering φ) (hkept : Fields.Kept φ written fields) (name : String) (d : Decoder α)
    {encode : α → Json} (h : ReadsBack d.decode encode) (hnull : d.decode .null = none) {a : Option α}
    (hw : Fields.only? name written = some (a.map encode)) : (maybe name d).decode fields = some a := by
  rw [← Option.or_none (o := a)]
  exact decode_given_optional hkept name none d.nullable (h.nullable hnull hφ) hw

/-! What has been read stands for a value. -/

variable {name : String} {d : Decoder α} {a : α}

theorem exists_of_seq {f : RecordDecoder (α → β)} {d : RecordDecoder α} {b : β} (h : (f <*> d).decode fields = some b) :
    ∃ g a, f.decode fields = some g ∧ d.decode fields = some a ∧ b = g a := by
  rw [decode_seq] at h
  cases hf : f.decode fields with
  | none =>
    rw [hf] at h
    cases h
  | some g =>
    cases hd : d.decode fields with
    | none =>
      rw [hf, hd] at h
      cases h
    | some a =>
      rw [hf, hd] at h
      exact ⟨g, a, rfl, rfl, (Option.some.inj h).symm⟩

theorem exists_of_need (h : (need name d).decode fields = some a) : ∃ v, d.decode v = some a := by
  obtain ⟨value, -, h⟩ := Option.bind_eq_some_iff.mp h
  obtain ⟨v, -, h⟩ := Option.bind_eq_some_iff.mp h
  exact ⟨v, h⟩

theorem exists_of_given {default : α} (h : (given name default d).decode fields = some a) :
    a = default ∨ ∃ v, d.decode v = some a := by
  obtain ⟨value, -, h⟩ := Option.bind_eq_some_iff.mp h
  cases value with
  | none => exact .inl (Option.some.inj h).symm
  | some v => exact .inr ⟨v, h⟩

theorem exists_of_decodeValue {d : RecordDecoder α} {v : Json} (h : d.decodeValue v = some a) :
    ∃ fields, d.decode fields = some a := by
  cases v with
  | object fields => exact ⟨fields, h⟩
  | array items =>
    simp only [decodeValue, decodeItems] at h
    split at h
    · exact ⟨_, h⟩
    · cases h
  | _ => cases h

end RecordDecoder

end PanelQuery
