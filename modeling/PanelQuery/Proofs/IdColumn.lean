import PanelQuery.Proofs.Text.Splice
import PanelQuery.ResourceKey

/-!
# The column of the identifiers of a key

The column of the identifiers of a key is the key itself, the key with `_id` before the ending of its side, or the key
with `_id` behind it (`IdColumn`). No case can be taken for another: `_id` neither makes nor breaks an occurrence of
`ip` (`IdColumn.contains_ip`), and what ends in it does not end like a side. So different keys have different columns
(`resourceIdKey_injective`).
-/

namespace PanelQuery

theorem Text.dropEnd?_eq_some_iff {text ending stem : String} :
    Text.dropEnd? text ending = some stem ↔ text = stem ++ ending := by
  unfold Text.dropEnd?
  rw [Option.map_eq_some_iff]
  simp only [List.isPrefixOf?_eq_some_iff_append_eq]
  constructor
  · rintro ⟨rest, hrest, rfl⟩
    rw [← String.toList_inj, String.toList_append, String.toList_ofList, ← List.reverse_inj, ← hrest]
    simp
  · rintro rfl
    exact ⟨stem.toList.reverse, by simp, by simp⟩

/-! ## The column of a key -/

section Keys

variable {key other column stem ending ending' a b u v : String}

/-- Texts can be cut in two where the rests are of one length. -/
theorem append_inj_of_length (h : a ++ u = b ++ v) (hlength : u.length = v.length) : a = b ∧ u = v := by
  rw [← String.toList_inj, String.toList_append, String.toList_append] at h
  rw [← String.length_toList, ← String.length_toList] at hlength
  obtain ⟨hfront, hrest⟩ := List.append_inj' h hlength
  exact ⟨String.toList_inj.mp hfront, String.toList_inj.mp hrest⟩

theorem mem_sideEndings : ending ∈ sideEndings ↔ ending = "_0" ∨ ending = "_1" := by
  simp [sideEndings]

theorem length_of_mem_sideEndings (h : ending ∈ sideEndings) : ending.length = 2 := by
  rcases mem_sideEndings.mp h with rfl | rfl
  · rfl
  · rfl

/-- The ending of a side can be told from what stands before it. -/
theorem append_ending_inj (hending : ending ∈ sideEndings) (hending' : ending' ∈ sideEndings)
    (h : a ++ ending = b ++ ending') : a = b ∧ ending = ending' :=
  append_inj_of_length h ((length_of_mem_sideEndings hending).trans (length_of_mem_sideEndings hending').symm)

/-- What ends in `_id` does not end like a side. -/
theorem append_id_ne (hending : ending ∈ sideEndings) : a ++ "_id" ≠ b ++ ending := by
  intro h
  rw [show "_id" = "_" ++ "id" by rfl, ← String.append_assoc] at h
  obtain ⟨-, rfl⟩ := append_inj_of_length h (length_of_mem_sideEndings hending).symm
  exact absurd hending (by decide)

/-- What an underscore sets off from a key does not make it a key of addresses. -/
theorem contains_ip_append (h : Text.contains v "ip" = false) :
    Text.contains (key ++ ("_" ++ v)) "ip" = Text.contains key "ip" := by
  have hv : ¬"ip".toList <:+: v.toList := fun hoccurs => by
    rw [Text.contains, Text.occursIn_iff.mpr hoccurs] at h
    cases h
  rw [Bool.eq_iff_iff, Text.contains, Text.contains, Text.occursIn_iff, Text.occursIn_iff, String.toList_append,
    String.toList_append]
  exact (Text.infix_append_cons_iff (by decide)).trans (or_iff_left hv)

theorem resourceIdKey_of_contains (h : Text.contains key "ip" = true) : resourceIdKey key = key := if_pos h

theorem resourceIdKey_append (h : Text.contains (stem ++ ending) "ip" = false) (hending : ending ∈ sideEndings) :
    resourceIdKey (stem ++ ending) = stem ++ "_id" ++ ending := by
  have hown : Text.dropEnd? (stem ++ ending) ending = some stem := Text.dropEnd?_eq_some_iff.mpr rfl
  have hother : ∀ ending' ∈ sideEndings, ending ≠ ending' → Text.dropEnd? (stem ++ ending) ending' = none := by
    intro ending' hending' hne
    refine Option.eq_none_iff_forall_ne_some.mpr fun stem' hstem => hne ?_
    exact (append_ending_inj hending hending' (Text.dropEnd?_eq_some_iff.mp hstem)).2
  unfold resourceIdKey
  rw [h]
  rcases mem_sideEndings.mp hending with rfl | rfl
  · simp [sideEndings, hown]
  · simp [sideEndings, hown, hother "_0" (by decide) (by decide)]

theorem resourceIdKey_of_forall_ne (h : Text.contains key "ip" = false)
    (hplain : ∀ ending ∈ sideEndings, ∀ stem, key ≠ stem ++ ending) : resourceIdKey key = key ++ "_id" := by
  have hnone : ∀ ending ∈ sideEndings, Text.dropEnd? key ending = none := fun ending hending =>
    Option.eq_none_iff_forall_ne_some.mpr fun stem hstem =>
      hplain ending hending stem (Text.dropEnd?_eq_some_iff.mp hstem)
  unfold resourceIdKey
  rw [h]
  simp [sideEndings, hnone "_0" (by decide), hnone "_1" (by decide)]

/-- How the column of the identifiers is made from a key. -/
inductive IdColumn : String → String → Prop where
  /-- Addresses have no identifiers. -/
  | address (key : String) : Text.contains key "ip" = true → IdColumn key key
  | sided (stem ending : String) : Text.contains (stem ++ ending) "ip" = false → ending ∈ sideEndings →
      IdColumn (stem ++ ending) (stem ++ "_id" ++ ending)
  | plain (key : String) : Text.contains key "ip" = false →
      (∀ ending ∈ sideEndings, ∀ stem, key ≠ stem ++ ending) → IdColumn key (key ++ "_id")

theorem idColumn_resourceIdKey (key : String) : IdColumn key (resourceIdKey key) := by
  cases hip : Text.contains key "ip" with
  | true =>
    rw [resourceIdKey_of_contains hip]
    exact .address key hip
  | false =>
    by_cases hsided : ∃ ending ∈ sideEndings, ∃ stem, key = stem ++ ending
    · obtain ⟨ending, hending, stem, rfl⟩ := hsided
      rw [resourceIdKey_append hip hending]
      exact .sided stem ending hip hending
    · have hplain : ∀ ending ∈ sideEndings, ∀ stem, key ≠ stem ++ ending :=
        fun ending hending stem h => hsided ⟨ending, hending, stem, h⟩
      rw [resourceIdKey_of_forall_ne hip hplain]
      exact .plain key hip hplain

/-- A column is one of addresses exactly if its key is. -/
theorem IdColumn.contains_ip (h : IdColumn key column) : Text.contains column "ip" = Text.contains key "ip" := by
  cases h with
  | address _ _ => rfl
  | sided stem ending _ hending =>
    -- on both sides of the equation all that follows the stem is set off by an underscore
    rw [String.append_assoc]
    rcases mem_sideEndings.mp hending with rfl | rfl
    · exact (contains_ip_append (v := "id_0") (by decide)).trans (contains_ip_append (v := "0") (by decide)).symm
    · exact (contains_ip_append (v := "id_1") (by decide)).trans (contains_ip_append (v := "1") (by decide)).symm
  | plain _ _ _ => exact contains_ip_append (v := "id") (by decide)

/-- A column tells the key that it was made from. -/
theorem IdColumn.key_eq (h : IdColumn key column) (h' : IdColumn other column) : key = other := by
  have hip : Text.contains key "ip" = Text.contains other "ip" := h.contains_ip.symm.trans h'.contains_ip
  cases h with
  | address _ haddress =>
    cases h' with
    | address _ _ => rfl
    | sided _ _ hother _ => cases (haddress.symm.trans hip).trans hother
    | plain _ hother _ => cases (haddress.symm.trans hip).trans hother
  | sided stem ending hkey hending =>
    generalize hcolumn : stem ++ "_id" ++ ending = column at h'
    cases h' with
    | address _ hother => cases (hkey.symm.trans hip).trans hother
    | sided stem' ending' _ hending' =>
      obtain ⟨hstem, rfl⟩ := append_ending_inj hending hending' hcolumn
      rw [(String.append_left_inj _).mp hstem]
    | plain _ _ _ => exact absurd hcolumn.symm (append_id_ne hending)
  | plain _ hkey _ =>
    generalize hcolumn : key ++ "_id" = column at h'
    cases h' with
    | address _ hother => cases (hkey.symm.trans hip).trans hother
    | sided _ _ _ hending' => exact absurd hcolumn (append_id_ne hending')
    | plain _ _ _ => exact (String.append_left_inj _).mp hcolumn

theorem resourceIdKey_injective : Function.Injective resourceIdKey := by
  intro key other h
  have hkey := idColumn_resourceIdKey key
  rw [h] at hkey
  exact hkey.key_eq (idColumn_resourceIdKey other)

end Keys

end PanelQuery
