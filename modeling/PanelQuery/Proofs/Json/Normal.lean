import PanelQuery.Proofs.Json.Reordering

/-!
# Normal values stay as they are

Sorting fields whose names ascend changes nothing (`Fields.sorted_of_ascending`), so a value all of whose objects are in
the order of their names is left alone when they are put in that order once more (`Json.normal_normal`).
-/

namespace PanelQuery

namespace Fields

variable {fields held : Fields} {field : String × Json} {name : String} {value : Json}

theorem ascending_sorted : Ascending (sorted fields) := ascending_foldl_put List.Pairwise.nil

theorem mem_of_mem_foldl_put (h : field ∈ fields.foldl (fun held field => put field.1 field.2 held) held) :
    field ∈ fields ∨ field ∈ held := by
  induction fields generalizing held with
  | nil => exact .inr h
  | cons first rest ih =>
    rcases ih h with h | h
    · exact .inl (List.mem_cons_of_mem _ h)
    · rcases mem_put h with rfl | h
      · exact .inl List.mem_cons_self
      · exact .inr h

/-- Sorting puts in no fields. -/
theorem mem_of_mem_sorted (h : field ∈ sorted fields) : field ∈ fields :=
  (mem_of_mem_foldl_put h).resolve_right List.not_mem_nil

theorem put_of_lt : ∀ {fields : Fields}, (∀ field ∈ fields, field.1 < name) →
    put name value fields = fields ++ [(name, value)]
  | [], _ => rfl
  | (other, held) :: rest, h => by
    have hlt : other < name := h _ List.mem_cons_self
    rw [put, if_neg (String.lt_asymm hlt), if_neg (String.ne_of_lt hlt).symm,
      put_of_lt fun field hfield => h field (List.mem_cons_of_mem _ hfield)]
    rfl

theorem foldl_put_of_ascending : ∀ {fields held : Fields}, Ascending (held ++ fields) →
    fields.foldl (fun held field => put field.1 field.2 held) held = held ++ fields
  | [], held, _ => (List.append_nil held).symm
  | (name, value) :: rest, held, h => by
    have hlt : ∀ field ∈ held, field.1 < name := fun field hfield =>
      (List.pairwise_append.mp h).2.2 field hfield _ List.mem_cons_self
    rw [List.foldl_cons, put_of_lt hlt, foldl_put_of_ascending (by rwa [List.append_assoc]), List.append_assoc]
    rfl

/-- Fields whose names ascend are sorted. -/
theorem sorted_of_ascending (h : Ascending fields) : sorted fields = fields := foldl_put_of_ascending h

end Fields

namespace Json

theorem normalFields_eq_self : ∀ {fields : Fields}, (∀ field ∈ fields, field.2.normal = field.2) →
    normalFields fields = fields
  | [], _ => rfl
  | (name, value) :: rest, h => by
    have hvalue : value.normal = value := h _ List.mem_cons_self
    rw [normalFields, hvalue, normalFields_eq_self fun field hfield => h field (List.mem_cons_of_mem _ hfield)]

mutual
/-- **A normal value is left alone.** -/
theorem normal_normal : ∀ v : Json, v.normal.normal = v.normal
  | .null | .bool _ | .number _ | .text _ => rfl
  | .array items => by
    simp only [normal, normalItems_normalItems items]
  | .object fields => by
    have hvalues := normal_of_mem_normalFields fields
    have hsorted : normalFields (Fields.sorted (normalFields fields)) = Fields.sorted (normalFields fields) :=
      normalFields_eq_self fun field hfield => hvalues field (Fields.mem_of_mem_sorted hfield)
    simp only [normal, record, hsorted, Fields.sorted_of_ascending Fields.ascending_sorted]

theorem normalItems_normalItems : ∀ items : List Json, normalItems (normalItems items) = normalItems items
  | [] => rfl
  | item :: rest => by simp only [normalItems, normal_normal item, normalItems_normalItems rest]

theorem normal_of_mem_normalFields : ∀ (fields : Fields), ∀ field ∈ normalFields fields, field.2.normal = field.2
  | [], _, h => by cases h
  | (name, value) :: rest, field, h => by
    rcases List.mem_cons.mp h with rfl | h
    · exact normal_normal value
    · exact normal_of_mem_normalFields rest field h
end

/-- The fields of a normal object are sorted, and their values normal. -/
theorem sorted_normalFields_sorted (fields : Fields) :
    Fields.sorted (normalFields (Fields.sorted (normalFields fields))) = Fields.sorted (normalFields fields) := by
  have hvalues := normal_of_mem_normalFields fields
  rw [normalFields_eq_self fun field hfield => hvalues field (Fields.mem_of_mem_sorted hfield),
    Fields.sorted_of_ascending Fields.ascending_sorted]

theorem exists_of_mem_normalFields {field : String × Json} :
    ∀ {fields : Fields}, field ∈ normalFields fields → ∃ value, (field.1, value) ∈ fields
  | [], h => by cases h
  | (name, value) :: rest, h => by
    rcases List.mem_cons.mp h with rfl | h
    · exact ⟨value, List.mem_cons_self⟩
    · obtain ⟨value, hvalue⟩ := exists_of_mem_normalFields h
      exact ⟨value, List.mem_cons_of_mem _ hvalue⟩

end Json
end PanelQuery
