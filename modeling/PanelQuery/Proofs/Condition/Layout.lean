import Mathlib.Data.List.Forall2
import Mathlib.Data.List.Perm.Basic
import PanelQuery.Proofs.Condition.Filters

/-!
# Where joining puts conditions

Joined conditions are the nodes of the tag conditions (`tagNodes`) and then the metric conditions as they are
(`joinConditions_eq`). There is one node for each column that is compared, and one that the two-sided conditions share,
in the order in which they are first compared; within a node the comparisons keep their order (`isNodeAt_keyGroup`).
What the nodes compare (`Condition.leaves`) is what the conditions do, each pattern on its own and a two-sided condition
on both sides (`leaves_tagNodes_perm`). So nothing is lost and nothing is there twice (`joinConditions_conserves`).
-/

namespace PanelQuery

/-! ## Leaves -/

namespace Condition

mutual
/-- What a condition compares, in order: its nodes that are no groups. -/
def leaves : Condition → List Condition
  | leaf c => [leaf c]
  | composed c => [composed c]
  | group _ members => leavesOf members

def leavesOf : List Condition → List Condition
  | [] => []
  | c :: rest => leaves c ++ leavesOf rest
end

theorem leavesOf_eq : ∀ cs : List Condition, leavesOf cs = cs.flatMap leaves
  | [] => rfl
  | c :: rest => by rw [leavesOf, leavesOf_eq rest, List.flatMap_cons]

theorem leaves_group (op : Junction) (members : List Condition) :
    (group op members).leaves = members.flatMap leaves := by
  rw [leaves, leavesOf_eq]

/-- Comparisons compare themselves. -/
theorem flatMap_leaves_leaf (cs : List Comparison) : (cs.map leaf).flatMap leaves = cs.map leaf := by
  rw [List.flatMap_map, List.map_eq_flatMap]
  exact List.flatMap_congr fun _ _ => by rw [leaves]

/-- Whether a condition compares a column by a condition on that column alone. -/
def ComparesPlainly (n : Condition) (key : String) : Prop :=
  ∃ l, leaf l ∈ n.leaves ∧ l.whereOnly = false ∧ l.key = key

end Condition

/-- The two-sided conditions. -/
def sidedConditions (items : List Normalized) : List Comparison :=
  items.flatMap fun
    | .tag c => if c.whereOnly then [c] else []
    | .metric _ => []

/-- The columns that are compared, in order, and `none` for every two-sided condition. A condition that is left without
patterns compares nothing and takes no place. -/
def places (items : List Normalized) : List (Option String) :=
  items.flatMap fun
    | .tag c => if c.whereOnly then [none] else (c.leavesOn c.key).map fun l => some l.key
    | .metric _ => []

/-- The columns that tag conditions name, in order, and `none` for every two-sided condition. Here a condition without
patterns has its place, too. -/
def namedPlaces (items : List Normalized) : List (Option String) :=
  items.flatMap fun
    | .tag c => [if c.whereOnly then none else some c.key]
    | .metric _ => []

/-! ## Parts -/

section Parts

variable {items : List Normalized} {parts : List TagPart} {key : String}

@[simp] theorem key?_plain (l : Comparison) : (TagPart.plain l).key? = some l.key := rfl

@[simp] theorem key?_expandSides (c : Comparison) : c.expandSides.key? = none := rfl

@[simp] theorem class?_expandSides (c : Comparison) : c.expandSides.class? = none := rfl

/-- The parts that joining groups have the places of the conditions that they come from. -/
theorem map_key?_parts : (items.flatMap Normalized.parts).map TagPart.key? = places items := by
  rw [places, List.map_flatMap]
  refine List.flatMap_congr fun n _ => ?_
  cases n with
  | metric m => rfl
  | tag c => cases hsided : c.whereOnly <;> simp [Normalized.parts, hsided, Comparison.splitLike_eq]

/-- The parts without a key are the two-sided conditions. -/
theorem filter_sided_parts :
    (items.flatMap Normalized.parts).filter (fun part => part.key? = none) =
      (sidedConditions items).map Comparison.expandSides := by
  rw [sidedConditions, List.filter_flatMap, List.map_flatMap]
  refine List.flatMap_congr fun n _ => ?_
  cases n with
  | metric m => rfl
  | tag c => cases hsided : c.whereOnly <;> simp [Normalized.parts, hsided]

/-- The parts with a key are the plain comparisons. -/
theorem filter_plain_parts :
    (items.flatMap Normalized.parts).filter (fun part => part.key? ≠ none) = (plainLeaves items).map .plain := by
  rw [plainLeaves, List.filter_flatMap, List.map_flatMap]
  refine List.flatMap_congr fun n _ => ?_
  cases n with
  | metric m => rfl
  | tag c => cases hsided : c.whereOnly <;> simp [Normalized.parts, hsided, Comparison.splitLike_eq]

/-- The parts of one key are the plain comparisons of that column. -/
theorem filter_column_parts :
    (items.flatMap Normalized.parts).filter (fun part => part.key? = some key) =
      ((plainLeaves items).filter fun l => l.key = key).map .plain := by
  have hplain : (items.flatMap Normalized.parts).filter (fun part => part.key? = some key) =
      ((items.flatMap Normalized.parts).filter fun part => part.key? ≠ none).filter
        fun part => part.key? = some key := by
    rw [List.filter_filter]
    refine List.filter_congr fun part _ => ?_
    cases part.key? <;> simp
  rw [hplain, filter_plain_parts, List.filter_map]
  exact congrArg _ (List.filter_congr fun l _ => by simp)

theorem leaves_toCondition_plain (l : Comparison) : (TagPart.plain l).toCondition.leaves = [.leaf l] := by
  rw [TagPart.toCondition, Condition.leaves]

/-- A two-sided part compares what its condition compares on both sides. -/
theorem leaves_toCondition_expandSides (c : Comparison) :
    c.expandSides.toCondition.leaves = c.sidedLeaves.map .leaf := by
  rw [Comparison.toCondition_expandSides, Comparison.sidedGroup, Condition.leaves_group, Condition.flatMap_leaves_leaf]

/-- The parts compare what the tag conditions do. -/
theorem leaves_parts_perm (items : List Normalized) :
    ((items.flatMap Normalized.parts).flatMap fun part => part.toCondition.leaves).Perm
      ((plainLeaves items ++ (sidedConditions items).flatMap Comparison.sidedLeaves).map .leaf) := by
  have hsplit := List.filter_append_perm (fun part : TagPart => decide (part.key? ≠ none))
    (items.flatMap Normalized.parts)
  have hsided : (items.flatMap Normalized.parts).filter (fun part => !decide (part.key? ≠ none)) =
      (sidedConditions items).map Comparison.expandSides := by
    rw [← filter_sided_parts]
    exact List.filter_congr fun part _ => by simp
  rw [filter_plain_parts, hsided] at hsplit
  refine (hsplit.symm.flatMap_right _).trans (List.Perm.of_eq ?_)
  rw [List.flatMap_append, List.flatMap_map, List.flatMap_map, List.map_append, List.map_flatMap]
  simp only [leaves_toCondition_plain, leaves_toCondition_expandSides, ← List.map_eq_flatMap]

/-- The condition of a key compares what its parts do. -/
theorem leaves_keyGroup_perm (parts : List TagPart) :
    (keyGroup parts).leaves.Perm (parts.flatMap fun part => part.toCondition.leaves) := by
  have hchoice : (keyGroup parts).leaves = (classGroups parts).flatMap Condition.leaves := by
    unfold keyGroup
    split
    · next g hgroups => rw [hgroups, List.flatMap_cons, List.flatMap_nil, List.append_nil]
    · exact Condition.leaves_group _ _
  have hclasses : (classGroups parts).flatMap Condition.leaves =
      (groupOn TagPart.class? parts).flatMap fun group => group.2.flatMap fun part => part.toCondition.leaves := by
    rw [classGroups, List.flatMap_map]
    exact List.flatMap_congr fun group _ => by rw [Condition.leaves_group, List.flatMap_map]
  rw [hchoice, hclasses]
  exact flatMap_groupOn_perm _ _ _

end Parts

/-! ## Nodes -/

/-- The group of the comparisons of a class, in order. -/
def classGroupOf (leaves : List Comparison) (cls : Option OperatorClass) : Condition :=
  .group (junctionOf cls) ((leaves.filter fun l => l.op.class? = cls).map .leaf)

/-- The groups of the classes that occur, in the order in which they first do. -/
def classGroupsOf (leaves : List Comparison) : List Condition :=
  ((leaves.map fun l => l.op.class?).eraseDups).map (classGroupOf leaves)

/-- Whether a node is the one of a place: on a column the group of the only class, or the groups of all classes as
alternatives; for the two-sided conditions one group of all of them, in order. -/
def IsNodeAt (items : List Normalized) : Option String → Condition → Prop
  | some key, n =>
    let groups := classGroupsOf ((plainLeaves items).filter fun l => l.key = key)
    groups = [n] ∨ 1 < groups.length ∧ n = .group .or groups
  | none, n => n = .group .and ((sidedConditions items).map Comparison.sidedGroup)

def tagNodes (items : List Normalized) : List Condition :=
  (places items).eraseDups.map fun place =>
    keyGroup ((items.flatMap Normalized.parts).filter fun part => part.key? = place)

section Nodes

variable {items : List Normalized} {place : Option String}

theorem tagNodes_eq :
    tagNodes items = (groupOn TagPart.key? (items.flatMap Normalized.parts)).map fun (_, parts) => keyGroup parts := by
  rw [tagNodes, groupOn_eq, List.map_map, map_key?_parts]
  rfl

/-- The tag conditions come first, then the metric conditions as they are. -/
theorem joinConditions_eq (items : List Normalized) :
    joinConditions items = tagNodes items ++ items.filterMap Normalized.metric? := by
  rw [joinConditions, tagNodes_eq]

/-- Plain comparisons are grouped by their classes. -/
theorem classGroups_plain (leaves : List Comparison) : classGroups (leaves.map .plain) = classGroupsOf leaves := by
  rw [classGroups, groupOn_eq, classGroupsOf, List.map_map, List.map_map]
  refine List.map_congr_left fun cls _ => ?_
  simp only [Function.comp, classGroupOf, List.filter_map, List.map_map]
  rfl

/-- Two-sided conditions are of one class. -/
theorem classGroups_sided {cs : List Comparison} (h : cs ≠ []) :
    classGroups (cs.map Comparison.expandSides) = [.group .and (cs.map Comparison.sidedGroup)] := by
  obtain ⟨c, rest, rfl⟩ := List.exists_cons_of_ne_nil h
  have hall : (rest.map Comparison.expandSides).filter (fun part => part.class? = none) =
      rest.map Comparison.expandSides := List.filter_eq_self.mpr fun part hpart => by
    obtain ⟨other, -, rfl⟩ := List.mem_map.mp hpart
    rfl
  have hnone : (rest.map Comparison.expandSides).filter (fun part => part.class? ≠ none) = [] :=
    List.filter_eq_nil_iff.mpr fun part hpart => by
      obtain ⟨other, -, rfl⟩ := List.mem_map.mp hpart
      simp
  rw [classGroups, List.map_cons, groupOn_cons, class?_expandSides, hall, hnone]
  simp [groupOn, junctionOf, Comparison.toCondition_expandSides]

/-- A place that occurs has parts. -/
theorem filter_parts_ne_nil (h : place ∈ places items) :
    (items.flatMap Normalized.parts).filter (fun part => part.key? = place) ≠ [] := by
  rw [← map_key?_parts] at h
  obtain ⟨part, hpart, hkey⟩ := List.mem_map.mp h
  exact List.ne_nil_of_mem (List.mem_filter.mpr ⟨hpart, decide_eq_true hkey⟩)

theorem sidedConditions_ne_nil (h : none ∈ places items) : sidedConditions items ≠ [] := by
  have hne := filter_parts_ne_nil h
  rw [filter_sided_parts] at hne
  exact fun hnil => hne (by rw [hnil, List.map_nil])

theorem classGroupsOf_ne_nil {key : String} (h : some key ∈ places items) :
    classGroupsOf ((plainLeaves items).filter fun l => l.key = key) ≠ [] := by
  have hne := filter_parts_ne_nil h
  rw [filter_column_parts] at hne
  obtain ⟨_, hpart⟩ := List.exists_mem_of_ne_nil _ hne
  obtain ⟨l, hl, -⟩ := List.mem_map.mp hpart
  have hclass := List.mem_map_of_mem (f := fun l : Comparison => l.op.class?) hl
  exact List.ne_nil_of_mem (List.mem_map_of_mem (List.mem_eraseDups.mpr hclass))

/-- The parts of a place make the node of that place. -/
theorem isNodeAt_keyGroup (hplace : place ∈ places items) :
    IsNodeAt items place (keyGroup ((items.flatMap Normalized.parts).filter fun part => part.key? = place)) := by
  cases place with
  | none =>
    rw [IsNodeAt, filter_sided_parts, keyGroup, classGroups_sided (sidedConditions_ne_nil hplace)]
  | some key =>
    rw [IsNodeAt, filter_column_parts, keyGroup, classGroups_plain]
    split
    · next g hgroups => exact .inl hgroups
    · next hgroups =>
      have hzero := mt List.length_eq_zero_iff.mp (classGroupsOf_ne_nil hplace)
      have hone : (classGroupsOf ((plainLeaves items).filter fun l => l.key = key)).length ≠ 1 := by
        intro hone
        obtain ⟨g, hg⟩ := List.length_eq_one_iff.mp hone
        exact hgroups g hg
      exact .inr ⟨by omega, rfl⟩

/-- What the nodes compare is what the tag conditions do. -/
theorem leaves_tagNodes_perm (items : List Normalized) :
    ((tagNodes items).flatMap Condition.leaves).Perm
      ((plainLeaves items ++ (sidedConditions items).flatMap Comparison.sidedLeaves).map .leaf) := by
  rw [tagNodes_eq, List.flatMap_map]
  have hnodes := List.Perm.flatMap_left (groupOn TagPart.key? (items.flatMap Normalized.parts))
    fun group _ => leaves_keyGroup_perm group.2
  exact hnodes.trans ((flatMap_groupOn_perm _ _ _).trans (leaves_parts_perm items))

/-- A node compares plainly no column but its own. -/
theorem place_of_comparesPlainly {key : String}
    (h : (keyGroup ((items.flatMap Normalized.parts).filter fun part => part.key? = place)).ComparesPlainly key) :
    place = some key := by
  obtain ⟨l, hl, hplain, rfl⟩ := h
  obtain ⟨part, hpart, hleaf⟩ := List.mem_flatMap.mp ((leaves_keyGroup_perm _).mem_iff.mp hl)
  obtain ⟨hpart, hkey⟩ := List.mem_filter.mp hpart
  rcases mem_parts.mp hpart with ⟨l', -, rfl⟩ | ⟨c, -, hsided, rfl⟩
  · rw [leaves_toCondition_plain, List.mem_singleton] at hleaf
    cases hleaf
    exact (of_decide_eq_true hkey).symm
  · rw [leaves_toCondition_expandSides] at hleaf
    obtain ⟨l', hl', heq⟩ := List.mem_map.mp hleaf
    cases heq
    cases hplain.symm.trans ((Comparison.whereOnly_of_mem_sidedLeaves hl').trans hsided)

/-- No place is taken twice. -/
theorem nodup_places : (places items).eraseDups.Nodup := by
  have hnodup := nodup_groupOn TagPart.key? (items.flatMap Normalized.parts)
  rw [groupOn_eq, List.map_map, map_key?_parts] at hnodup
  simpa [Function.comp_def] using hnodup

/-- **Joining loses and duplicates nothing.** The joined conditions are the nodes of the tag conditions and then the
metric conditions, as they are. The nodes compare exactly what the tag conditions do, each as often; no column is
compared plainly by two of them; and there is one for each column and one for all two-sided conditions, in the order in
which these are first compared, where comparisons of one class keep their order. -/
theorem joinConditions_conserves (items : List Normalized) :
    ∃ nodes, joinConditions items = nodes ++ items.filterMap Normalized.metric? ∧
      (nodes.flatMap Condition.leaves).Perm
        ((plainLeaves items ++ (sidedConditions items).flatMap Comparison.sidedLeaves).map .leaf) ∧
      nodes.Pairwise (fun n m => ∀ key, n.ComparesPlainly key → ¬m.ComparesPlainly key) ∧
      List.Forall₂ (IsNodeAt items) (places items).eraseDups nodes := by
  refine ⟨tagNodes items, joinConditions_eq items, leaves_tagNodes_perm items, ?_, ?_⟩
  · refine List.pairwise_map.mpr (nodup_places.imp fun hne key hn hm => hne ?_)
    rw [place_of_comparesPlainly hn, place_of_comparesPlainly hm]
  · refine List.forall₂_map_right_iff.mpr (List.forall₂_same.mpr fun place hplace => ?_)
    exact isNodeAt_keyGroup (List.mem_eraseDups.mp hplace)

/-- A condition without patterns takes no place: the column that it is the first to name comes behind another, which is
compared with two patterns. -/
theorem joinConditions_conserves_not :
    let likeJ : Comparison := { key := "j", op := .like, val := .many [.text "a", .text "b"] }
    let equalK : Comparison := { key := "k", op := .equal, val := .one (.text "2") }
    let items : List Normalized := [.tag { key := "k", op := .like, val := .many [] }, .tag likeJ, .tag equalK]
    joinConditions items =
        [.group .or [.leaf { likeJ with val := .one (.text "a") }, .leaf { likeJ with val := .one (.text "b") }],
          .group .or [.leaf equalK]] ∧
      (namedPlaces items).eraseDups = [some "k", some "j"] ∧
      ¬List.Forall₂ (IsNodeAt items) (namedPlaces items).eraseDups (joinConditions items) := by
  intro likeJ equalK items
  have hjoined : joinConditions items =
      [.group .or [.leaf { likeJ with val := .one (.text "a") }, .leaf { likeJ with val := .one (.text "b") }],
        .group .or [.leaf equalK]] := rfl
  have hnamed : (namedPlaces items).eraseDups = [some "k", some "j"] := rfl
  refine ⟨hjoined, hnamed, fun hnodes => ?_⟩
  rw [hjoined, hnamed] at hnodes
  obtain ⟨hfirst, -⟩ := List.forall₂_cons.mp hnodes
  have hgroups : classGroupsOf ((plainLeaves items).filter fun l => l.key = "k") = [.group .or [.leaf equalK]] := rfl
  rw [IsNodeAt, hgroups] at hfirst
  simp at hfirst

end Nodes

end PanelQuery
