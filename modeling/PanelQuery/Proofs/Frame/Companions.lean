import PanelQuery.Proofs.Frame.Series
import PanelQuery.Service.Respond

/-!
# The companions of common keys

A relationship lists a group-by key without a side together with its companion, the column of the names of its codes,
if that was returned. It is answered twice: asked for with the returned tags, and in the frames of a result. The frames
know the tags as they are shown, without times and without quotes (`shownTags_names`), so the two answers agree exactly
if the companion of every common key is among the names that are shown just when it is among those that were returned
(`relationship_answers_agree_iff`): the keys and companions of a relationship tell which companions it was given
(`Relationship.of_eq_iff`).
-/

namespace PanelQuery

/-! ## Keys and companions -/

namespace Relationship

variable {groupBy rows : List Row} {returned shown : List String} {key other : String} {r : Row}

/-- The column of the names of the codes of a key. -/
def companion (key : String) : String := "Enum(" ++ key ++ ")"

/-- No two keys have one companion. -/
theorem companion_injective (h : companion key = companion other) : key = other := by
  unfold companion at h
  rwa [String.append_left_inj, String.append_right_inj] at h

/-- The common columns of a row are its key and, if that is returned, the companion of it. -/
theorem commonKeys_eq :
    commonKeys returned r = r.realKey :: if companion r.realKey ∈ returned then [companion r.realKey] else [] := by
  unfold commonKeys
  by_cases hmem : companion r.realKey ∈ returned
  · rw [if_pos hmem]
    exact if_pos (List.contains_iff_mem.mpr hmem)
  · rw [if_neg hmem]
    exact if_neg fun hcontains => hmem (List.contains_iff_mem.mp hcontains)

/-- How often a companion is listed, whether as a key of its own or for the sake of its key. -/
theorem count_flatMap_commonKeys : (rows.flatMap (commonKeys returned)).count (companion key) =
    (rows.map Row.realKey).count (companion key) +
      if companion key ∈ returned then (rows.map Row.realKey).count key else 0 := by
  induction rows with
  | nil => simp
  | cons r rest ih =>
    have hown : (if companion r.realKey ∈ returned then [companion r.realKey] else []).count (companion key) =
        if companion key ∈ returned then (if r.realKey == key then 1 else 0) else 0 := by
      by_cases hkey : r.realKey = key
      · rw [hkey]
        split <;> simp
      · have hcompanion : companion r.realKey ≠ companion key := fun h => hkey (companion_injective h)
        split <;> simp [hkey, hcompanion]
    rw [List.flatMap_cons, commonKeys_eq, List.count_append, ih, List.count_cons, hown, List.map_cons,
      List.count_cons, List.count_cons]
    split <;> omega

/-- The keys and companions that are listed tell which companions were returned. -/
theorem flatMap_commonKeys_eq_iff : rows.flatMap (commonKeys returned) = rows.flatMap (commonKeys shown) ↔
    ∀ r ∈ rows, (companion r.realKey ∈ returned ↔ companion r.realKey ∈ shown) := by
  constructor
  · intro hsame r hr
    have hcount := congrArg (List.count (companion r.realKey)) hsame
    have hpos : 0 < (rows.map Row.realKey).count r.realKey := List.count_pos_iff.mpr (List.mem_map_of_mem hr)
    rw [count_flatMap_commonKeys, count_flatMap_commonKeys, Nat.add_left_cancel_iff] at hcount
    by_cases hreturned : companion r.realKey ∈ returned <;> by_cases hshown : companion r.realKey ∈ shown
    · exact iff_of_true hreturned hshown
    · rw [if_pos hreturned, if_neg hshown] at hcount
      omega
    · rw [if_neg hreturned, if_pos hshown] at hcount
      omega
    · exact iff_of_false hreturned hshown
  · intro hsame
    rw [List.flatMap_def, List.flatMap_def]
    refine congrArg List.flatten (List.map_congr_left fun r hr => ?_)
    simp only [commonKeys_eq, hsame r hr]

/-- Whether a group-by row has a key that both ends share. -/
def IsCommon (r : Row) : Prop := r.hasKey = true ∧ r.side = none

/-- Two lists of returned tags give the same relationship exactly if they hold the same companions of common keys. -/
theorem of_eq_iff : of groupBy returned = of groupBy shown ↔
    ∀ r ∈ groupBy, IsCommon r → (companion r.realKey ∈ returned ↔ companion r.realKey ∈ shown) := by
  have hcommon : of groupBy returned = of groupBy shown ↔
      (of groupBy returned).common = (of groupBy shown).common :=
    ⟨congrArg common, congrArg (mk (of groupBy returned).source (of groupBy returned).target)⟩
  rw [hcommon, of, of, flatMap_commonKeys_eq_iff]
  simp [IsCommon, and_comm]

end Relationship
/-! ## Names as they are shown -/

namespace CompiledQuery

variable {tags : List Json} {q : CompiledQuery}

def tagNames (q : CompiledQuery) : List String := q.tags.filterMap tagName?

end CompiledQuery

/-- The name of a tag as it is shown: none for times, and without quotes. -/
def shownName? (name : String) : Option String :=
  if Text.contains name "time" then none else some (Text.replaceAll name "'" "")

/-- The name of a returned tag is shown as any name is. -/
theorem tagName?_shownTag? (tag : Json) : (shownTag? tag).bind tagName? = (tagName? tag).bind shownName? := by
  unfold shownTag?
  rw [Option.bind_assoc]
  refine Option.bind_congr fun name hname => ?_
  unfold shownName?
  split
  · rfl
  · cases tag with
    | object fields => simp [tagName?, Fields.get?_put_self, Json.text?]
    | text name => rfl
    | _ => cases hname

theorem shownTags_names {tags : List Json} :
    (tags.filterMap shownTag?).filterMap tagName? = (tags.filterMap tagName?).filterMap shownName? := by
  simp only [List.filterMap_filterMap, tagName?_shownTag?]

/-! ## Frames of relationships -/

section Frames

variable {f : Form} {q : CompiledQuery} {result : QueryResult} {frames : List Frame} {records : List Record}

/-- What is known of a frame of a series does not depend on the series. -/
theorem info_of_seriesFrame {columns : List Column} {tags : List String} {frame : Frame}
    (h : seriesFrame f q columns tags records = .ok frame) : frame.info = frameMeta q f := by
  rw [seriesFrame_eq] at h
  obtain ⟨fields, -, hinfo⟩ := bind_eq_ok_iff.mp h
  rw [← Except.ok.inj hinfo]

/-- What is known of a table does not depend on its rows. -/
theorem info_of_tableFrame {columns : List Column} {frame : Frame} (h : tableFrame f q columns records = .ok frame) :
    frame.info = frameMeta q f := by
  obtain ⟨fields, -, hinfo⟩ := bind_eq_ok_iff.mp h
  rw [← Except.ok.inj hinfo]

/-- A result with rows has frames, and all of them tell the same of their columns. -/
theorem info_of_shapeFrames (hrows : result.rows ≠ []) (h : shapeFrames result q f = .ok frames) :
    frames ≠ [] ∧ ∀ frame ∈ frames, frame.info = frameMeta q f := by
  unfold shapeFrames at h
  cases hrecords : result.records.map Record.prepare with
  | nil => exact absurd (List.map_eq_nil_iff.mp (List.map_eq_nil_iff.mp hrecords)) hrows
  | cons first rest =>
    rw [hrecords] at h
    dsimp only at h
    split at h
    · refine ⟨?_, fun frame hframe => ?_⟩
      · -- the series of the first record has a frame
        have hseries : _ ∈ seriesOf (tagsOf q first) (first :: rest) :=
          mem_seriesOf.mpr ⟨first, List.mem_cons_self, rfl⟩
        obtain ⟨frame, hframe⟩ := exists_mapM_eq_ok_iff.mp ⟨frames, h⟩ _ hseries
        exact List.ne_nil_of_mem ((mem_of_mapM_eq_ok h).mpr ⟨_, hseries, hframe⟩)
      · obtain ⟨series, -, hseries⟩ := (mem_of_mapM_eq_ok h).mp hframe
        exact info_of_seriesFrame hseries
    · cases htable : tableFrame f q (columnsOf q first) (first :: rest) with
      | error error => rw [htable] at h; cases h
      | ok table =>
        rw [htable] at h
        cases h
        exact ⟨List.cons_ne_nil _ _, fun frame hframe => List.mem_singleton.mp hframe ▸ info_of_tableFrame htable⟩

/-- The relationship that a form asks for, in the frames of its result. -/
theorem relationship_frameMeta (happ : f.appType = .accessRelationship) :
    (frameMeta q f).relationship = some (Relationship.of f.groupBy (q.tagNames.filterMap shownName?)) := by
  unfold frameMeta
  dsimp only
  rw [if_pos happ, shownTags_names]
  rfl

/-- The relationship that is asked for with the returned tags. -/
theorem Service.answer_relationship {queryText : Json} {now : Int} {s : Service} (hform : formOf queryText = .ok f) :
    s.answer now (.relationship ⟨queryText, q.tags⟩) =
      .done (⟨200, some (.object (Relationship.of f.groupBy q.tagNames).toFields)⟩, s) := by
  unfold answer
  have hperform : ((ServiceRequest.relationship ⟨queryText, q.tags⟩).perform now).perform s =
      .done (.ok (.object (Relationship.of f.groupBy q.tagNames).toFields), s) := by
    unfold ServiceRequest.perform Action.relationship
    dsimp only
    rw [hform]
    rfl
  rw [hperform]
  rfl

/-- **When the two answers agree.** A relationship is asked for with the tags that a compiled query returns, and it is
part of all frames of a result with rows. These are the same relationship exactly if the companion of each common key
is returned just when it is the name, without quotes, of a returned tag that is no time. -/
theorem relationship_answers_agree_iff (happ : f.appType = .accessRelationship) (hrows : result.rows ≠ [])
    (hframes : shapeFrames result q f = .ok frames) :
    (∀ queryText now s, formOf queryText = .ok f → Service.answer now (.relationship ⟨queryText, q.tags⟩) s =
      .done (⟨200, some (.object (Relationship.of f.groupBy q.tagNames).toFields)⟩, s)) ∧
    frames ≠ [] ∧
    ((∀ frame ∈ frames, frame.info.relationship = some (Relationship.of f.groupBy q.tagNames)) ↔
      ∀ r ∈ f.groupBy, Relationship.IsCommon r →
        (Relationship.companion r.realKey ∈ q.tagNames ↔
          ∃ name ∈ q.tagNames, shownName? name = some (Relationship.companion r.realKey))) := by
  obtain ⟨hsome, hinfo⟩ := info_of_shapeFrames hrows hframes
  refine ⟨fun _ _ _ => Service.answer_relationship, hsome, ?_⟩
  have hagree : (∀ frame ∈ frames, frame.info.relationship = some (Relationship.of f.groupBy q.tagNames)) ↔
      Relationship.of f.groupBy q.tagNames = Relationship.of f.groupBy (q.tagNames.filterMap shownName?) := by
    constructor
    · intro hall
      obtain ⟨frame, hframe⟩ := List.exists_mem_of_ne_nil frames hsome
      have hshown := hall frame hframe
      rw [hinfo frame hframe, relationship_frameMeta happ] at hshown
      exact (Option.some.inj hshown).symm
    · intro hsame frame hframe
      rw [hinfo frame hframe, relationship_frameMeta happ, hsame]
  simp only [hagree, Relationship.of_eq_iff, List.mem_filterMap]

/-- The companion of a key that is named like a time is returned, and missing in the frames. -/
theorem relationship_answers_agree_not :
    let f : Form := { Form.new .accessRelationship with
      groupBy := [{ Row.tag "pod_0" with side := some .source }, { Row.tag "pod_1" with side := some .target },
        Row.tag "timezone"] }
    let q : CompiledQuery := ⟨"SELECT", [.text "timezone", .text "Enum(timezone)"], []⟩
    let result : QueryResult := ⟨["timezone", "Enum(timezone)"], [[.int 1, .text "one"]]⟩
    ∃ frames, shapeFrames result q f = .ok frames ∧ frames ≠ [] ∧
      ¬∀ frame ∈ frames, frame.info.relationship = some (Relationship.of f.groupBy q.tagNames) := by
  intro f q result
  have hshaped : (shapeFrames result q f).toOption.isSome = true := by decide
  cases hframes : shapeFrames result q f with
  | error error => simp [hframes, Except.toOption] at hshaped
  | ok frames =>
    obtain ⟨-, hsome, hagree⟩ := relationship_answers_agree_iff rfl (List.cons_ne_nil _ _) hframes
    refine ⟨frames, rfl, hsome, fun hall => ?_⟩
    have hcompanion := hagree.mp hall (Row.tag "timezone") (by decide) ⟨by decide, rfl⟩
    obtain ⟨name, hname, hshown⟩ := hcompanion.mp (by decide)
    have hlost : ∀ name ∈ q.tagNames, shownName? name ≠ some (Relationship.companion "timezone") := by decide
    exact hlost name hname hshown

end Frames
end PanelQuery
