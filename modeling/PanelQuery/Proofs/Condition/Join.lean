import PanelQuery.Proofs.Condition.Compared
import PanelQuery.Proofs.Condition.Tree
import PanelQuery.Proofs.Grouping

/-!
# What joining means

The meaning of the joined conditions (`Assignment.Satisfies`) is said of the normalized conditions themselves: every
metric condition holds, every two-sided one holds on its sides, and on every column that the others compare some class
of operators holds. The joined tree is true exactly then (`holds_joinConditions`), so the order of the conditions does
not matter (`joinConditions_meaning`).
-/

namespace PanelQuery

open Condition (holds_group)

/-! ## Parts -/

/-- The comparisons of the tag conditions on one column, each pattern on its own. -/
def plainLeaves (items : List Normalized) : List Comparison :=
  items.flatMap fun
    | .tag c => if c.whereOnly then [] else c.leavesOn c.key
    | .metric _ => []

/-- What is compared plainly is what some condition compares on its own column. -/
theorem mem_plainLeaves {items : List Normalized} {l : Comparison} :
    l ∈ plainLeaves items ↔ ∃ c, .tag c ∈ items ∧ c.whereOnly = false ∧ l ∈ c.leavesOn c.key := by
  rw [plainLeaves, List.mem_flatMap]
  constructor
  · rintro ⟨n, hn, hl⟩
    cases n with
    | tag c =>
      cases hc : c.whereOnly with
      | true => simp [hc] at hl
      | false => exact ⟨c, hn, hc, by simpa [hc] using hl⟩
    | metric m => simp at hl
  · rintro ⟨c, hc, hplain, hl⟩
    exact ⟨.tag c, hc, by simpa [hplain] using hl⟩

/-- A part is a plain comparison, or the expansion of a condition over both sides. -/
theorem mem_parts {items : List Normalized} {part : TagPart} :
    part ∈ items.flatMap Normalized.parts ↔
      (∃ l ∈ plainLeaves items, part = .plain l) ∨ ∃ c, .tag c ∈ items ∧ c.whereOnly = true ∧ part = c.expandSides := by
  rw [List.mem_flatMap]
  constructor
  · rintro ⟨n, hn, hpart⟩
    cases n with
    | tag c =>
      cases hc : c.whereOnly with
      | true =>
        simp only [Normalized.parts, hc, if_true, List.mem_singleton] at hpart
        exact .inr ⟨c, hn, hc, hpart⟩
      | false =>
        simp only [Normalized.parts, hc, Bool.false_eq_true, if_false, List.mem_map, Comparison.splitLike_eq] at hpart
        obtain ⟨l, hl, rfl⟩ := hpart
        exact .inl ⟨l, mem_plainLeaves.mpr ⟨c, hn, hc, hl⟩, rfl⟩
    | metric m => simp [Normalized.parts] at hpart
  · rintro (⟨l, hl, rfl⟩ | ⟨c, hc, hsided, rfl⟩)
    · obtain ⟨c, hc, hplain, hl⟩ := mem_plainLeaves.mp hl
      exact ⟨.tag c, hc, by simp [Normalized.parts, hplain, Comparison.splitLike_eq, hl]⟩
    · exact ⟨.tag c, hc, by simp [Normalized.parts, hsided]⟩

theorem mem_filterMap_metric? {items : List Normalized} {m : Condition} :
    m ∈ items.filterMap Normalized.metric? ↔ .metric m ∈ items := by
  rw [List.mem_filterMap]
  constructor
  · rintro ⟨n, hn, hm⟩
    cases n with
    | tag c => cases hm
    | metric m' => cases hm; exact hn
  · exact fun h => ⟨.metric m, h, rfl⟩

/-! ## Groups -/

/-- There is one group for each class that occurs. -/
theorem mem_classGroups {parts : List TagPart} {g : Condition} :
    g ∈ classGroups parts ↔ ∃ part ∈ parts, g = .group (junctionOf part.class?)
      ((parts.filter fun other => other.class? = part.class?).map TagPart.toCondition) := by
  rw [classGroups, List.mem_map]
  constructor
  · rintro ⟨⟨cls, members⟩, hgroup, rfl⟩
    obtain ⟨⟨part, hpart, rfl⟩, rfl⟩ := (mem_groupOn _ _).mp hgroup
    exact ⟨part, hpart, rfl⟩
  · rintro ⟨part, hpart, rfl⟩
    exact ⟨(part.class?, _), (mem_groupOn _ _).mpr ⟨⟨part, hpart, rfl⟩, rfl⟩, rfl⟩

/-- There is one condition for each key that occurs, and the metric conditions stay as they are. -/
theorem mem_joinConditions {items : List Normalized} {c : Condition} :
    c ∈ joinConditions items ↔
      (∃ part ∈ items.flatMap Normalized.parts, c =
        keyGroup ((items.flatMap Normalized.parts).filter fun other => other.key? = part.key?)) ∨
      .metric c ∈ items := by
  rw [joinConditions, List.mem_append, mem_filterMap_metric?, List.mem_map]
  refine or_congr_left ?_
  constructor
  · rintro ⟨⟨key, members⟩, hgroup, rfl⟩
    obtain ⟨⟨part, hpart, rfl⟩, rfl⟩ := (mem_groupOn _ _).mp hgroup
    exact ⟨part, hpart, rfl⟩
  · rintro ⟨part, hpart, rfl⟩
    exact ⟨(part.key?, _), (mem_groupOn _ _).mpr ⟨⟨part, hpart, rfl⟩, rfl⟩, rfl⟩

/-! ## Truth -/

section Truth

variable {t : Assignment}

/-- The condition of a key is a choice between the groups of its classes. -/
theorem holds_keyGroup (parts : List TagPart) :
    (keyGroup parts).holds t = true ↔ ∃ part ∈ parts, (junctionOf part.class?).Joins
      (parts.filter fun other => other.class? = part.class?) fun other => other.toCondition.holds t = true := by
  have hchoice : (keyGroup parts).holds t = true ↔ ∃ g ∈ classGroups parts, g.holds t = true := by
    unfold keyGroup
    split
    · next g hgroups => simp [hgroups]
    · exact holds_group .or _
  rw [hchoice]
  constructor
  · rintro ⟨g, hg, hholds⟩
    obtain ⟨part, hpart, rfl⟩ := mem_classGroups.mp hg
    exact ⟨part, hpart, (Junction.joins_map _ _ _ _).mp ((holds_group _ _).mp hholds)⟩
  · rintro ⟨part, hpart, hjoins⟩
    exact ⟨_, mem_classGroups.mpr ⟨part, hpart, rfl⟩, (holds_group _ _).mpr ((Junction.joins_map _ _ _ _).mpr hjoins)⟩

/-- Whether the comparisons on a column of one class hold: one of them for the forward class, all of them for any
other. -/
def Assignment.ClassHolds (t : Assignment) (leaves : List Comparison) (key : String) (cls : Option OperatorClass) :
    Prop :=
  if cls = some .forward then ∃ l ∈ leaves, l.key = key ∧ l.op.class? = cls ∧ t.leaf l = true
  else ∀ l ∈ leaves, l.key = key → l.op.class? = cls → t.leaf l = true

instance {leaves : List Comparison} {key : String} {cls : Option OperatorClass} :
    Decidable (t.ClassHolds leaves key cls) :=
  inferInstanceAs (Decidable
    (if cls = some .forward then ∃ l ∈ leaves, l.key = key ∧ l.op.class? = cls ∧ t.leaf l = true
    else ∀ l ∈ leaves, l.key = key → l.op.class? = cls → t.leaf l = true))

/-- A class holds if all comparisons of one class on a column, which it has, are true. -/
theorem Assignment.classHolds_of_forall {leaves : List Comparison} {l : Comparison} (hl : l ∈ leaves)
    (h : ∀ l' ∈ leaves, l'.key = l.key → l'.op.class? = l.op.class? → t.leaf l' = true) :
    t.ClassHolds leaves l.key l.op.class? := by
  unfold ClassHolds
  split
  · exact ⟨l, hl, rfl, rfl, h l hl rfl rfl⟩
  · exact h

/-- Whether a comparison holds on its sides: on both, each pattern on its own, if it negates, else on one. -/
def Assignment.HoldsOnSides (t : Assignment) (c : Comparison) : Prop :=
  if c.op.isNegated then ∀ l ∈ c.sidedLeaves, t.leaf l = true else ∃ l ∈ c.sidedLeaves, t.leaf l = true

/-- What normalized conditions ask for together. -/
structure Assignment.Satisfies (t : Assignment) (items : List Normalized) : Prop where
  metrics : ∀ m, .metric m ∈ items → m.holds t = true
  sides : ∀ c, .tag c ∈ items → c.whereOnly = true → t.HoldsOnSides c
  /-- On every column that is compared, some class of operators holds. -/
  columns : ∀ l ∈ plainLeaves items, ∃ l' ∈ plainLeaves items, l'.key = l.key ∧
    t.ClassHolds (plainLeaves items) l.key l'.op.class?

/-- The node of a two-sided condition holds exactly if the condition does on its sides. -/
theorem holds_expandSides (c : Comparison) : c.expandSides.toCondition.holds t = true ↔ t.HoldsOnSides c := by
  rw [Comparison.toCondition_expandSides, Comparison.sidedGroup, holds_group, Junction.joins_map,
    Assignment.HoldsOnSides]
  cases c.op.isNegated with
  | true => exact Iff.rfl
  | false => exact Iff.rfl

/-- Only conditions of the forward class are alternatives. -/
theorem joins_junctionOf (cls : Option OperatorClass) (members : List α) (p : α → Prop) :
    (junctionOf cls).Joins members p ↔
      if cls = some .forward then ∃ a ∈ members, p a else ∀ a ∈ members, p a := by
  match cls with
  | none => exact Iff.rfl
  | some .forward => exact Iff.rfl
  | some .reverse => exact Iff.rfl
  | some .range => exact Iff.rfl

/-- The parts on a column with operators of a class are the plain comparisons there. -/
theorem mem_parts_column {items : List Normalized} {key : String} {cls : Option OperatorClass} {part : TagPart} :
    part ∈ ((items.flatMap Normalized.parts).filter fun part => part.key? = some key).filter
        (fun part => part.class? = cls) ↔
      ∃ l ∈ plainLeaves items, l.key = key ∧ l.op.class? = cls ∧ part = .plain l := by
  rw [List.mem_filter, List.mem_filter, mem_parts, decide_eq_true_eq, decide_eq_true_eq]
  constructor
  · rintro ⟨⟨⟨l, hl, rfl⟩ | ⟨c, -, -, rfl⟩, hkey⟩, hcls⟩
    · exact ⟨l, hl, Option.some.inj hkey, hcls, rfl⟩
    · cases hkey
  · rintro ⟨l, hl, hkey, hcls, rfl⟩
    exact ⟨⟨.inl ⟨l, hl, rfl⟩, congrArg some hkey⟩, hcls⟩

/-- The parts of one column and class hold as the comparisons of that column and class do. -/
theorem joins_column (items : List Normalized) (key : String) (cls : Option OperatorClass) :
    (junctionOf cls).Joins
        (((items.flatMap Normalized.parts).filter fun part => part.key? = some key).filter
          fun part => part.class? = cls)
        (fun part => part.toCondition.holds t = true) ↔
      t.ClassHolds (plainLeaves items) key cls := by
  rw [joins_junctionOf, Assignment.ClassHolds]
  split
  · constructor
    · rintro ⟨part, hpart, hholds⟩
      obtain ⟨l, hl, hkey, hcls, rfl⟩ := mem_parts_column.mp hpart
      exact ⟨l, hl, hkey, hcls, hholds⟩
    · rintro ⟨l, hl, hkey, hcls, hholds⟩
      exact ⟨.plain l, mem_parts_column.mpr ⟨l, hl, hkey, hcls, rfl⟩, hholds⟩
  · constructor
    · exact fun h l hl hkey hcls => h (.plain l) (mem_parts_column.mpr ⟨l, hl, hkey, hcls, rfl⟩)
    · intro h part hpart
      obtain ⟨l, hl, hkey, hcls, rfl⟩ := mem_parts_column.mp hpart
      exact h l hl hkey hcls

/-- The condition of a column is a choice between the classes that occur there. -/
theorem holds_columnGroup (items : List Normalized) (key : String) :
    (keyGroup ((items.flatMap Normalized.parts).filter fun part => part.key? = some key)).holds t = true ↔
      ∃ l ∈ plainLeaves items, l.key = key ∧ t.ClassHolds (plainLeaves items) key l.op.class? := by
  rw [holds_keyGroup]
  constructor
  · rintro ⟨part, hpart, hjoins⟩
    obtain ⟨l, hl, hkey, -, rfl⟩ := mem_parts_column.mp (List.mem_filter.mpr ⟨hpart, decide_eq_true rfl⟩)
    exact ⟨l, hl, hkey, (joins_column items key _).mp hjoins⟩
  · rintro ⟨l, hl, hkey, hholds⟩
    have hpart := mem_parts_column.mpr ⟨l, hl, hkey, rfl, rfl⟩
    exact ⟨.plain l, (List.mem_filter.mp hpart).1, (joins_column items key _).mpr hholds⟩

/-- The two-sided conditions, which share one group, all have to hold. -/
theorem holds_sidedGroup {items : List Normalized} {c : Comparison} (hc : .tag c ∈ items)
    (hsided : c.whereOnly = true) :
    (keyGroup ((items.flatMap Normalized.parts).filter fun part => part.key? = none)).holds t = true ↔
      ∀ c, .tag c ∈ items → c.whereOnly = true → t.HoldsOnSides c := by
  have hmem : ∀ part, part ∈ ((items.flatMap Normalized.parts).filter fun part => part.key? = none).filter
      (fun part => part.class? = none) ↔ ∃ c, .tag c ∈ items ∧ c.whereOnly = true ∧ part = c.expandSides := by
    intro part
    rw [List.mem_filter, List.mem_filter, mem_parts, decide_eq_true_eq, decide_eq_true_eq]
    constructor
    · rintro ⟨⟨⟨l, hl, rfl⟩ | hpart, hkey⟩, -⟩
      · cases hkey
      · exact hpart
    · rintro ⟨c, hc, hsided, rfl⟩
      exact ⟨⟨.inr ⟨c, hc, hsided, rfl⟩, rfl⟩, rfl⟩
  rw [holds_keyGroup]
  constructor
  · rintro ⟨part, hpart, hjoins⟩ c hc hsided
    obtain ⟨hpart, hkey⟩ := List.mem_filter.mp hpart
    rcases mem_parts.mp hpart with ⟨l, -, rfl⟩ | ⟨c', -, -, rfl⟩
    · cases of_decide_eq_true hkey
    · exact (holds_expandSides c).mp (hjoins _ ((hmem _).mpr ⟨c, hc, hsided, rfl⟩))
  · intro h
    have hpart := (hmem c.expandSides).mpr ⟨c, hc, hsided, rfl⟩
    refine ⟨c.expandSides, (List.mem_filter.mp hpart).1, fun part hpart => ?_⟩
    obtain ⟨c', hc', hsided', rfl⟩ := (hmem part).mp hpart
    exact (holds_expandSides c').mpr (h c' hc' hsided')

/-- The joined conditions are true together exactly if what was asked for is. -/
theorem holds_joinConditions {items : List Normalized} :
    (∀ c ∈ joinConditions items, c.holds t = true) ↔ t.Satisfies items := by
  constructor
  · intro h
    refine ⟨fun m hm => h m (mem_joinConditions.mpr (.inr hm)), fun c hc hsided => ?_, fun l hl => ?_⟩
    · have hpart := mem_parts.mpr (.inr ⟨c, hc, hsided, rfl⟩)
      have hgroup := h _ (mem_joinConditions.mpr (.inl ⟨c.expandSides, hpart, rfl⟩))
      exact (holds_sidedGroup hc hsided).mp hgroup c hc hsided
    · have hpart := mem_parts.mpr (.inl ⟨l, hl, rfl⟩)
      have hgroup := h _ (mem_joinConditions.mpr (.inl ⟨.plain l, hpart, rfl⟩))
      exact (holds_columnGroup items l.key).mp hgroup
  · intro h c hc
    rcases mem_joinConditions.mp hc with ⟨part, hpart, rfl⟩ | hm
    · rcases mem_parts.mp hpart with ⟨l, hl, rfl⟩ | ⟨c', hc', hsided, rfl⟩
      · exact (holds_columnGroup items l.key).mpr (h.columns l hl)
      · exact (holds_sidedGroup hc' hsided).mpr h.sides
    · exact h.metrics c hm

/-- What is compared plainly does not depend on the order of the conditions. -/
theorem mem_plainLeaves_of_mem_iff {items items' : List Normalized} (h : ∀ n, n ∈ items ↔ n ∈ items') (l : Comparison) :
    l ∈ plainLeaves items ↔ l ∈ plainLeaves items' := by
  simp only [mem_plainLeaves, h]

/-- What conditions ask for depends only on which conditions there are. -/
theorem Assignment.satisfies_congr {items items' : List Normalized} (h : ∀ n, n ∈ items ↔ n ∈ items') :
    t.Satisfies items ↔ t.Satisfies items' := by
  have hclass : ∀ key cls, t.ClassHolds (plainLeaves items) key cls ↔ t.ClassHolds (plainLeaves items') key cls := by
    intro key cls
    simp only [Assignment.ClassHolds, mem_plainLeaves_of_mem_iff h]
  constructor
  · rintro ⟨hmetrics, hsides, hcolumns⟩
    simp only [h, mem_plainLeaves_of_mem_iff h, hclass] at hmetrics hsides hcolumns
    exact ⟨hmetrics, hsides, hcolumns⟩
  · rintro ⟨hmetrics, hsides, hcolumns⟩
    simp only [← h, ← mem_plainLeaves_of_mem_iff h, ← hclass] at hmetrics hsides hcolumns
    exact ⟨hmetrics, hsides, hcolumns⟩

/-- **The meaning of joined conditions**, which is the same for every order of them. -/
theorem joinConditions_meaning (t : Assignment) (items : List Normalized) :
    ((∀ c ∈ joinConditions items, c.holds t = true) ↔ t.Satisfies items) ∧
    ∀ items', items.Perm items' →
      ((∀ c ∈ joinConditions items, c.holds t = true) ↔ ∀ c ∈ joinConditions items', c.holds t = true) := by
  refine ⟨holds_joinConditions, fun items' hperm => ?_⟩
  rw [holds_joinConditions, holds_joinConditions]
  exact Assignment.satisfies_congr fun n => hperm.mem_iff

/-- Two classes on one column, of which equality alone is true, and two patterns on another: in either order the joined
conditions are true if a pattern is matched, and false if none is. -/
theorem joinConditions_meaning_swap :
    let equal : Normalized := .tag { key := "host", op := .equal, val := .one (.text "a") }
    let notEqual : Normalized := .tag { key := "host", op := .notEqual, val := .one (.text "b") }
    let patterns : Normalized := .tag { key := "pod", op := .like, val := .many [.text "a*", .text "b*"] }
    let matching (pattern : String) : Assignment :=
      ⟨fun l => l.op = .equal ∨ l.op = .like ∧ l.val = .one (.text pattern), fun _ => false⟩
    [equal, notEqual, patterns].Perm [notEqual, equal, patterns] ∧
      (∀ c ∈ joinConditions [notEqual, equal, patterns], c.holds (matching "b*") = true) ∧
      ¬∀ c ∈ joinConditions [notEqual, equal, patterns], c.holds (matching "c*") = true := by
  intro equal notEqual patterns matching
  have hperm : [equal, notEqual, patterns].Perm [notEqual, equal, patterns] := .swap _ _ _
  refine ⟨hperm, ((joinConditions_meaning (matching "b*") _).2 _ hperm).mp (by decide), fun hholds => ?_⟩
  -- the column of the patterns has the forward class alone, which asks for one of them
  obtain ⟨l, hl, hkey, hclass⟩ := ((joinConditions_meaning (matching "c*") _).1.mp hholds).columns
    { key := "pod", op := .like, val := .one (.text "a*") } (by decide)
  revert l
  decide

end Truth

end PanelQuery
