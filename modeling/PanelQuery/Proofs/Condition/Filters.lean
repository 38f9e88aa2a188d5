import PanelQuery.Proofs.Condition.Join
import PanelQuery.Proofs.Condition.Normal

/-!
# Which filters a query keeps

The nodes of the joined conditions are the groups that joining makes, none of which is empty, and the nodes of what is
joined (`mem_nodesOf_joinConditions`). So a tag condition is kept, in comparisons of its own column or of both its
sides, unless it matches patterns and has none (`Comparison.HasNoPattern`): such a condition on one column leaves
nothing behind, and one on two sides leaves an empty group. Without such conditions every filter is kept and no group is
empty, and only then (`joinConditions_keeps_filters`).
-/

namespace PanelQuery

open Condition (nodesOf mem_nodesOf mem_nodes_group mem_nodes_leaf)

/-! ## Nodes -/

/-- A group with members. -/
def Condition.IsFilledGroup (n : Condition) : Prop := ∃ op members, members ≠ [] ∧ n = .group op members

/-- The nodes of the group of a class. -/
theorem mem_nodes_classGroup {parts : List TagPart} {g n : Condition} (hg : g ∈ classGroups parts) (hn : n ∈ g.nodes) :
    n.IsFilledGroup ∨ ∃ part ∈ parts, n ∈ part.toCondition.nodes := by
  obtain ⟨part, hpart, rfl⟩ := mem_classGroups.mp hg
  rcases mem_nodes_group.mp hn with rfl | ⟨c, hc, hn⟩
  · refine .inl ⟨_, _, fun hnil => ?_, rfl⟩
    have hmem := mem_filter_own TagPart.class? hpart
    exact List.ne_nil_of_mem hmem (List.map_eq_nil_iff.mp hnil)
  · obtain ⟨other, hother, rfl⟩ := List.mem_map.mp hc
    exact .inr ⟨other, (List.mem_filter.mp hother).1, hn⟩

/-- The nodes of the condition of a key, whose parts are not empty. -/
theorem mem_nodes_keyGroup {parts : List TagPart} {n : Condition} (hne : parts ≠ []) (hn : n ∈ (keyGroup parts).nodes) :
    n.IsFilledGroup ∨ ∃ part ∈ parts, n ∈ part.toCondition.nodes := by
  unfold keyGroup at hn
  split at hn
  · next g hgroups => exact mem_nodes_classGroup (by simp [hgroups]) hn
  · rcases mem_nodes_group.mp hn with rfl | ⟨g, hg, hn⟩
    · obtain ⟨part, hpart⟩ := List.exists_mem_of_ne_nil _ hne
      exact .inl ⟨_, _, List.ne_nil_of_mem (mem_classGroups.mpr ⟨part, hpart, rfl⟩), rfl⟩
    · exact mem_nodes_classGroup hg hn

/-- What is in a part stays in the node of its key. -/
theorem mem_nodes_keyGroup_of_part {parts : List TagPart} {part : TagPart} {n : Condition} (hpart : part ∈ parts)
    (hn : n ∈ part.toCondition.nodes) : n ∈ (keyGroup parts).nodes := by
  have hmember : part.toCondition ∈ (parts.filter fun other => other.class? = part.class?).map TagPart.toCondition :=
    List.mem_map_of_mem (mem_filter_own TagPart.class? hpart)
  have hgroup := mem_classGroups.mpr ⟨part, hpart, rfl⟩
  have hnode : n ∈ (Condition.group (junctionOf part.class?) _).nodes := mem_nodes_group.mpr (.inr ⟨_, hmember, hn⟩)
  unfold keyGroup
  split
  · next g hgroups =>
    rw [hgroups, List.mem_singleton] at hgroup
    rwa [← hgroup]
  · exact mem_nodes_group.mpr (.inr ⟨_, hgroup, hnode⟩)

/-- The nodes of joined conditions. -/
theorem mem_nodesOf_joinConditions {items : List Normalized} {n : Condition}
    (hn : n ∈ nodesOf (joinConditions items)) :
    n.IsFilledGroup ∨ (∃ part ∈ items.flatMap Normalized.parts, n ∈ part.toCondition.nodes) ∨
      ∃ m, .metric m ∈ items ∧ n ∈ m.nodes := by
  obtain ⟨c, hc, hn⟩ := mem_nodesOf.mp hn
  rcases mem_joinConditions.mp hc with ⟨part, hpart, rfl⟩ | hm
  · have hmem := mem_filter_own TagPart.key? hpart
    rcases mem_nodes_keyGroup (List.ne_nil_of_mem hmem) hn with hfilled | ⟨other, hother, hn⟩
    · exact .inl hfilled
    · exact .inr (.inl ⟨other, (List.mem_filter.mp hother).1, hn⟩)
  · exact .inr (.inr ⟨c, hm, hn⟩)

/-- What is in a part stays in the joined conditions. -/
theorem mem_nodesOf_of_part {items : List Normalized} {part : TagPart} {n : Condition}
    (hpart : part ∈ items.flatMap Normalized.parts) (hn : n ∈ part.toCondition.nodes) :
    n ∈ nodesOf (joinConditions items) := by
  have hmem := mem_filter_own TagPart.key? hpart
  exact mem_nodesOf.mpr ⟨_, mem_joinConditions.mpr (.inl ⟨part, hpart, rfl⟩), mem_nodes_keyGroup_of_part hmem hn⟩

/-- The nodes of an expansion are its group and the comparisons of the two sides. -/
theorem mem_nodes_expandSides {c : Comparison} {n : Condition} :
    n ∈ c.expandSides.toCondition.nodes ↔ n = c.sidedGroup ∨ ∃ l ∈ c.sidedLeaves, n = .leaf l := by
  rw [Comparison.toCondition_expandSides, Comparison.sidedGroup, mem_nodes_group]
  refine or_congr_right ?_
  constructor
  · rintro ⟨_, hmember, hn⟩
    obtain ⟨l, hl, rfl⟩ := List.mem_map.mp hmember
    exact ⟨l, hl, mem_nodes_leaf.mp hn⟩
  · rintro ⟨l, hl, rfl⟩
    exact ⟨.leaf l, List.mem_map_of_mem hl, mem_nodes_leaf.mpr rfl⟩

/-! ## Filters -/

namespace Comparison

/-- A two-sided condition compares nothing exactly if it matches patterns and has none. -/
theorem sidedLeaves_eq_nil_iff {c : Comparison} : c.sidedLeaves = [] ↔ c.HasNoPattern := by
  rw [sidedLeaves, List.append_eq_nil_iff, leavesOn_eq_nil_iff, leavesOn_eq_nil_iff, and_self]

/-- The expansion of a condition is empty only without patterns. -/
theorem sidedGroup_eq_empty {c : Comparison} : (∃ op, c.sidedGroup = .group op []) ↔ c.HasNoPattern := by
  simp [sidedGroup, sidedLeaves_eq_nil_iff]

/-- Whether a condition is kept among nodes: by a comparison of its column, or by one of the column of each side. -/
def KeptIn (c : Comparison) (nodes : List Condition) : Prop :=
  if c.whereOnly then ∀ ending ∈ ["_0", "_1"], ∃ l, .leaf l ∈ nodes ∧ l.IsShareOf (c.onColumn (c.sideColumn ending))
  else ∃ l, .leaf l ∈ nodes ∧ l.IsShareOf c

end Comparison

section Kept

variable {items : List Normalized}

/-- A metric condition of the list is a node without members. -/
theorem mem_nodes_metric {m n : Condition} (h : (Normalized.metric m).WellFormed) (hn : n ∈ m.nodes) :
    (∃ l, n = .leaf l ∧ l.kind = .metric) ∨ ∃ e, n = .composed e := by
  match m, h, hn with
  | .leaf l, h, hn => exact .inl ⟨l, by simpa using hn, h⟩
  | .composed e, _, hn => exact .inr ⟨e, by simpa using hn⟩

/-- A comparison of tags in the joined conditions has patterns, if it matches any. -/
theorem not_hasNoPattern_of_leaf (h : ∀ n ∈ items, n.WellFormed) {l : Comparison} (hkind : l.kind = .tag)
    (hl : .leaf l ∈ nodesOf (joinConditions items)) : ¬l.HasNoPattern := by
  rcases mem_nodesOf_joinConditions hl with ⟨_, _, -, hgroup⟩ | ⟨part, hpart, hn⟩ | ⟨m, hm, hn⟩
  · cases hgroup
  · rcases mem_parts.mp hpart with ⟨l', hl', rfl⟩ | ⟨c, -, -, rfl⟩
    · obtain ⟨c, -, -, hshare⟩ := mem_plainLeaves.mp hl'
      cases mem_nodes_leaf.mp hn
      exact (Comparison.share_of_mem_leavesOn hshare).2
    · rcases mem_nodes_expandSides.mp hn with hgroup | ⟨l', hl', heq⟩
      · cases hgroup
      · cases heq
        obtain ⟨ending, -, hshare⟩ := Comparison.mem_sidedLeaves.mp hl'
        exact (Comparison.share_of_mem_leavesOn hshare).2
  · rcases mem_nodes_metric (h _ hm) hn with ⟨_, heq, hmetric⟩ | ⟨_, heq⟩
    · cases heq
      cases hkind.symm.trans hmetric
    · cases heq

/-- An empty group is the expansion of a two-sided condition without patterns. -/
theorem exists_of_mem_emptyGroup (h : ∀ n ∈ items, n.WellFormed) {op : Junction}
    (hgroup : .group op [] ∈ nodesOf (joinConditions items)) : ∃ c, .tag c ∈ items ∧ c.HasNoPattern := by
  rcases mem_nodesOf_joinConditions hgroup with ⟨_, members, hne, heq⟩ | ⟨part, hpart, hn⟩ | ⟨m, hm, hn⟩
  · cases heq
    exact absurd rfl hne
  · rcases mem_parts.mp hpart with ⟨l, -, rfl⟩ | ⟨c, hc, -, rfl⟩
    · cases mem_nodes_leaf.mp hn
    · rcases mem_nodes_expandSides.mp hn with heq | ⟨_, _, heq⟩
      · exact ⟨c, hc, Comparison.sidedGroup_eq_empty.mp ⟨op, heq.symm⟩⟩
      · cases heq
  · rcases mem_nodes_metric (h _ hm) hn with ⟨_, heq, -⟩ | ⟨_, heq⟩
    · cases heq
    · cases heq

/-- A condition that has patterns, if it matches any, is kept. -/
theorem keptIn_joinConditions {c : Comparison} (hc : .tag c ∈ items) (hpattern : ¬c.HasNoPattern) :
    c.KeptIn (nodesOf (joinConditions items)) := by
  unfold Comparison.KeptIn
  split
  · next hsided =>
    intro ending hending
    obtain ⟨l, hl⟩ := List.exists_mem_of_ne_nil _ (mt (Comparison.leavesOn_eq_nil_iff (c := c)).mp hpattern)
    have hpart := mem_parts.mpr (.inr ⟨c, hc, hsided, rfl⟩)
    have hnode := mem_nodes_expandSides.mpr (.inr ⟨l, Comparison.mem_sidedLeaves.mpr ⟨ending, hending, hl⟩, rfl⟩)
    exact ⟨l, mem_nodesOf_of_part hpart hnode, (Comparison.share_of_mem_leavesOn hl).1⟩
  · next hplain =>
    obtain ⟨l, hl⟩ := List.exists_mem_of_ne_nil _ (mt Comparison.leavesOn_eq_nil_iff.mp hpattern)
    have hleaf := mem_plainLeaves.mpr ⟨c, hc, Bool.eq_false_iff.mpr hplain, hl⟩
    have hnode : .leaf l ∈ (TagPart.plain l).toCondition.nodes := mem_nodes_leaf.mpr rfl
    exact ⟨l, mem_nodesOf_of_part (mem_parts.mpr (.inl ⟨l, hleaf, rfl⟩)) hnode, (Comparison.share_of_mem_leavesOn hl).1⟩

/-- **Which filters are kept.** Joining keeps every tag condition, without leaving an empty group, exactly if none
matches patterns and has none. -/
theorem joinConditions_keeps_filters (h : ∀ n ∈ items, n.WellFormed) :
    (∀ c, .tag c ∈ items → c.KeptIn (nodesOf (joinConditions items))) ∧
        (∀ op, .group op [] ∉ nodesOf (joinConditions items)) ↔
      ∀ c, .tag c ∈ items → ¬c.HasNoPattern := by
  constructor
  · rintro ⟨hkept, hfilled⟩ c hc hnone
    cases hsided : c.whereOnly with
    | true =>
      obtain ⟨op, hgroup⟩ := Comparison.sidedGroup_eq_empty.mpr hnone
      have hpart := mem_parts.mpr (.inr ⟨c, hc, hsided, rfl⟩)
      exact hfilled op (mem_nodesOf_of_part hpart (mem_nodes_expandSides.mpr (.inl hgroup.symm)))
    | false =>
      have hkept := hkept c hc
      rw [Comparison.KeptIn, if_neg (by simp [hsided])] at hkept
      obtain ⟨l, hl, rfl | ⟨values, hval, value, hvalue, -⟩⟩ := hkept
      · exact not_hasNoPattern_of_leaf h (h _ hc) hl hnone
      · cases hval.symm.trans hnone.2
        cases hvalue
  · intro hpattern
    refine ⟨fun c hc => keptIn_joinConditions hc (hpattern c hc), fun op hgroup => ?_⟩
    obtain ⟨c, hc, hnone⟩ := exists_of_mem_emptyGroup h hgroup
    exact hpattern c hc hnone

/-- A filter by a list of patterns that has come out empty is lost, or leaves an empty group. -/
theorem joinConditions_loses_filter :
    let items : List Normalized := [.tag { key := "host", op := .like, val := .many [] },
      .tag { key := "pod", op := .equal, val := .one (.text "a") }]
    (∀ n ∈ items, n.WellFormed) ∧
      ¬((∀ c, .tag c ∈ items → c.KeptIn (nodesOf (joinConditions items))) ∧
        ∀ op, .group op [] ∉ nodesOf (joinConditions items)) := by
  intro items
  have hwf : ∀ n ∈ items, n.WellFormed := by simp [items, Normalized.WellFormed]
  refine ⟨hwf, fun hkept => ?_⟩
  exact (joinConditions_keeps_filters hwf).mp hkept _ List.mem_cons_self ⟨rfl, rfl⟩

end Kept

end PanelQuery
