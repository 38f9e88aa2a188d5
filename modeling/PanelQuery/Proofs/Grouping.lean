import PanelQuery.Grouping

/-!
# Groups by a key

`groupOn` without its accumulator: the first item opens its group, which takes in all later items with its key, and the
other items are grouped after it (`groupOn_cons`). So there is one group for each key that occurs (`nodup_groupOn`), in
the order in which the keys first occur (`groupOn_eq`), and it holds the items with that key in the order of the list
(`mem_groupOn`). Together the groups hold every item once (`flatten_groupOn_perm`).
-/

namespace PanelQuery

variable {α κ : Type} [DecidableEq κ]

/-- The group in front takes the items with its key; the others go on to the groups behind it. -/
theorem foldl_insertGroup (key : α → κ) (k : κ) : ∀ (items members : List α) (groups : List (κ × List α)),
    items.foldl (fun groups item => insertGroup (key item) item groups) ((k, members) :: groups) =
      (k, members ++ items.filter fun item => key item = k) ::
        (items.filter fun item => key item ≠ k).foldl (fun groups item => insertGroup (key item) item groups) groups
  | [], members, groups => by simp
  | item :: rest, members, groups => by
    by_cases h : key item = k
    · rw [List.foldl_cons, insertGroup, if_pos h.symm, foldl_insertGroup key k rest]
      simp [h]
    · rw [List.foldl_cons, insertGroup, if_neg (Ne.symm h), foldl_insertGroup key k rest]
      simp [h]

theorem groupOn_cons (key : α → κ) (item : α) (rest : List α) :
    groupOn key (item :: rest) =
      (key item, item :: rest.filter fun other => key other = key item) ::
        groupOn key (rest.filter fun other => key other ≠ key item) :=
  foldl_insertGroup key (key item) rest [item] []

/-- The groups are those of the keys that occur, each with all items of its key. -/
theorem mem_groupOn (key : α → κ) {k : κ} {members : List α} : ∀ items : List α,
    (k, members) ∈ groupOn key items ↔
      (∃ item ∈ items, key item = k) ∧ members = items.filter fun item => key item = k
  | [] => by simp [groupOn]
  | item :: rest => by
    rw [groupOn_cons, List.mem_cons, mem_groupOn key (rest.filter _)]
    by_cases h : key item = k
    · subst h
      -- the groups behind are of other keys
      have hnot : ¬∃ other ∈ rest.filter fun other => key other ≠ key item, key other = key item := by
        rintro ⟨other, ho, hk⟩
        exact of_decide_eq_true (List.mem_filter.mp ho).2 hk
      have hmembers : (item :: rest).filter (fun other => key other = key item) =
          item :: rest.filter fun other => key other = key item := List.filter_cons_of_pos (by simp)
      rw [or_iff_left fun hb => hnot hb.1, hmembers, Prod.mk.injEq]
      exact ⟨fun hp => ⟨⟨item, List.mem_cons_self, rfl⟩, hp.2⟩, fun hp => ⟨rfl, hp.2⟩⟩
    · have hmembers : (rest.filter fun other => key other ≠ key item).filter (fun other => key other = k) =
          rest.filter fun other => key other = k := by
        rw [List.filter_filter]
        refine List.filter_congr fun other _ => ?_
        by_cases ho : key other = k <;> simp [ho, Ne.symm h]
      have hexists : (∃ other ∈ rest.filter fun other => key other ≠ key item, key other = k) ↔
          ∃ other ∈ item :: rest, key other = k := by
        constructor
        · rintro ⟨other, ho, hk⟩
          exact ⟨other, List.mem_cons_of_mem _ (List.mem_filter.mp ho).1, hk⟩
        · rintro ⟨other, ho, rfl⟩
          rcases List.mem_cons.mp ho with rfl | ho
          · exact absurd rfl h
          · exact ⟨other, List.mem_filter.mpr ⟨ho, by simpa using Ne.symm h⟩, rfl⟩
      rw [hmembers, hexists, List.filter_cons_of_neg (by simpa using h)]
      exact or_iff_right fun he => h (Prod.mk.inj he).1.symm
termination_by items => items.length
decreasing_by exact Nat.lt_succ_of_le (List.length_filter_le _ _)

/-- No two groups have one key. -/
theorem nodup_groupOn (key : α → κ) : ∀ items : List α, ((groupOn key items).map Prod.fst).Nodup
  | [] => List.nodup_nil
  | item :: rest => by
    rw [groupOn_cons, List.map_cons, List.nodup_cons]
    refine ⟨fun hmem => ?_, nodup_groupOn key _⟩
    obtain ⟨⟨k, members⟩, hgroup, rfl⟩ := List.mem_map.mp hmem
    obtain ⟨⟨other, ho, hk⟩, -⟩ := (mem_groupOn key _).mp hgroup
    exact of_decide_eq_true (List.mem_filter.mp ho).2 hk
termination_by items => items.length
decreasing_by exact Nat.lt_succ_of_le (List.length_filter_le _ _)

/-- The groups in closed form: the keys in the order of their first occurrences, each with the items that have it. -/
theorem groupOn_eq [BEq κ] [LawfulBEq κ] (key : α → κ) : ∀ items : List α,
    groupOn key items = (items.map key).eraseDups.map fun k => (k, items.filter fun item => key item = k)
  | [] => rfl
  | item :: rest => by
    have hbehind := groupOn_eq key (rest.filter fun other => key other ≠ key item)
    have hkeys : (rest.map key).filter (fun k => !k == key item) =
        (rest.filter fun other => key other ≠ key item).map key := by
      rw [List.filter_map]
      refine congrArg _ (List.filter_congr fun other _ => ?_)
      by_cases h : key other = key item <;> simp [h]
    rw [groupOn_cons, hbehind, List.map_cons, List.eraseDups_cons, List.map_cons, hkeys]
    refine List.cons_eq_cons.mpr ⟨?_, List.map_congr_left fun k hk => ?_⟩
    · rw [List.filter_cons_of_pos (by simp)]
    · -- the groups behind are of other keys
      obtain ⟨other, ho, rfl⟩ := List.mem_map.mp (List.mem_eraseDups.mp hk)
      have hne : key other ≠ key item := of_decide_eq_true (List.mem_filter.mp ho).2
      rw [List.filter_cons_of_neg (by simpa using hne.symm), List.filter_filter]
      refine congrArg _ (List.filter_congr fun third _ => ?_)
      by_cases hthird : key third = key other <;> simp [hthird, hne]
termination_by items => items.length
decreasing_by exact Nat.lt_succ_of_le (List.length_filter_le _ _)

/-- Together the groups hold the items, each as often as the list. -/
theorem flatten_groupOn_perm (key : α → κ) : ∀ items : List α,
    ((groupOn key items).map Prod.snd).flatten.Perm items
  | [] => List.Perm.nil
  | item :: rest => by
    rw [groupOn_cons, List.map_cons, List.flatten_cons, List.cons_append]
    have hbehind := flatten_groupOn_perm key (rest.filter fun other => key other ≠ key item)
    have hsplit := List.filter_append_perm (fun other => decide (key other = key item)) rest
    refine ((hbehind.append_left _).trans ?_).cons item
    simpa using hsplit
termination_by items => items.length
decreasing_by exact Nat.lt_succ_of_le (List.length_filter_le _ _)

/-- What the items hold, the groups hold together. -/
theorem flatMap_groupOn_perm {β : Type} (key : α → κ) (items : List α) (f : α → List β) :
    ((groupOn key items).flatMap fun group => group.2.flatMap f).Perm (items.flatMap f) := by
  rw [← List.flatMap_assoc, List.flatMap_def]
  exact (flatten_groupOn_perm key items).flatMap_right f

/-- Groups of what items stand for are the groups of the items. -/
theorem groupOn_map {β : Type} (f : α → β) (key : β → κ) : ∀ items : List α,
    groupOn key (items.map f) = (groupOn (fun item => key (f item)) items).map (Prod.map id (List.map f))
  | [] => rfl
  | item :: rest => by
    have hbehind := groupOn_map f key (rest.filter fun other => key (f other) ≠ key (f item))
    rw [List.map_cons, groupOn_cons, groupOn_cons, List.filter_map, List.filter_map, List.map_cons]
    exact congrArg _ hbehind
termination_by items => items.length
decreasing_by exact Nat.lt_succ_of_le (List.length_filter_le _ _)

section Arranging

variable {β : Type} {key : α → κ} {arrange : List α → β} {items : List α}

theorem mem_map_groupOn {k : κ} {members : β} :
    (k, members) ∈ (groupOn key items).map (Prod.map id arrange) ↔
      (∃ item ∈ items, key item = k) ∧ members = arrange (items.filter fun item => key item = k) := by
  simp only [List.mem_map, Prod.exists, mem_groupOn, Prod.map_apply, id, Prod.mk.injEq]
  constructor
  · rintro ⟨_, _, ⟨hitem, rfl⟩, rfl, rfl⟩
    exact ⟨hitem, rfl⟩
  · rintro ⟨hitem, rfl⟩
    exact ⟨_, _, ⟨hitem, rfl⟩, rfl, rfl⟩

theorem nodup_map_groupOn : ((groupOn key items).map (Prod.map id arrange)).Nodup := by
  have hkeys := nodup_groupOn key items
  rw [List.Nodup, List.pairwise_map] at hkeys ⊢
  exact hkeys.imp fun hne heq => hne (Prod.mk.inj heq).1

end Arranging

/-- An item is in the group of its key. -/
theorem mem_filter_own (key : α → κ) {item : α} {items : List α} (h : item ∈ items) :
    item ∈ items.filter fun other => key other = key item :=
  List.mem_filter.mpr ⟨h, decide_eq_true rfl⟩

end PanelQuery
