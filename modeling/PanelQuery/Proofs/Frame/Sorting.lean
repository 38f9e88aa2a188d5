import PanelQuery.Frame.Shape
import PanelQuery.Proofs.Grouping

/-!
# Sorting records and series

The orders of times and of tag values are total, and different times and different tag values have different places in
them. So sorting leaves nothing of the order in which records come, if they are told apart by their times
(`sortByTime_eq_of_perm`), and the series of records come in the order of their tag values whatever the order of the
records was (`seriesOf_map_eq_of_perm`). What the order does not tell apart stays as it was
(`pairwise_mergeSort_stable`). Series are the groups of a list by texts (`groupsByTexts`), which hold each item once.
-/

namespace PanelQuery

/-- Two lists of the same items are the same once sorted, if the order tells the items apart. -/
theorem mergeSort_eq_of_perm {α : Type} {le : α → α → Bool} {items others : List α}
    (htrans : ∀ a b c, le a b = true → le b c = true → le a c = true) (htotal : ∀ a b, (le a b || le b a) = true)
    (hperm : items.Perm others)
    (hanti : ∀ a ∈ items, ∀ b ∈ items, le a b = true → le b a = true → a = b) :
    items.mergeSort le = others.mergeSort le := by
  have hitems := List.pairwise_mergeSort htrans htotal items
  have hothers := List.pairwise_mergeSort htrans htotal others
  refine List.Perm.eq_of_pairwise ?_ hitems hothers ?_
  · intro a b ha hb
    exact hanti a (List.mem_mergeSort.mp ha) b (hperm.mem_iff.mpr (List.mem_mergeSort.mp hb))
  · exact (List.mergeSort_perm items le).trans (hperm.trans (List.mergeSort_perm others le).symm)

section Stability

variable {α : Type} {le : α → α → Bool} {items : List α}

/-- Items that are in order keep their order among all others. -/
theorem filter_mergeSort_of_pairwise {p : α → Bool} (htrans : ∀ a b c, le a b = true → le b c = true → le a c = true)
    (htotal : ∀ a b, (le a b || le b a) = true) (h : (items.filter p).Pairwise fun a b => le a b = true) :
    (items.mergeSort le).filter p = items.filter p := by
  have hkept : (items.filter p).Sublist ((items.mergeSort le).filter p) := by
    have hsorted := (List.sublist_mergeSort htrans htotal h List.filter_sublist).filter p
    rwa [List.filter_filter, funext fun c => Bool.and_self (p c)] at hsorted
  exact (hkept.eq_of_length ((List.mergeSort_perm items le).filter p).length_eq.symm).symm

/-- Sorting is stable: items that the order does not tell apart are related as they were before. -/
theorem pairwise_mergeSort_stable {R : α → α → Prop}
    (htrans : ∀ a b c, le a b = true → le b c = true → le a c = true) (htotal : ∀ a b, (le a b || le b a) = true)
    (hR : items.Pairwise R) :
    (items.mergeSort le).Pairwise fun a b => le a b = true ∧ (le b a = true → R a b) := by
  rw [List.pairwise_iff_forall_sublist]
  intro a b hpair
  have hle := List.pairwise_iff_forall_sublist.mp (List.pairwise_mergeSort htrans htotal items) hpair
  refine ⟨hle, fun hge => ?_⟩
  -- `a` and `b` are among the items with the place of `a` in the order, which sorting leaves as they are
  have htied : (items.filter fun c => le a c && le c a).Pairwise fun c d => le c d = true := by
    refine List.pairwise_iff_forall_sublist.mpr fun {c d} hsub => ?_
    have hc := (List.mem_filter.mp (hsub.subset List.mem_cons_self)).2
    have hd := (List.mem_filter.mp (hsub.subset (List.mem_cons_of_mem _ List.mem_cons_self))).2
    exact htrans c a d (Bool.and_eq_true_iff.mp hc).2 (Bool.and_eq_true_iff.mp hd).1
  have hrefl : le a a = true := by simpa using htotal a a
  have hfiltered := hpair.filter fun c => le a c && le c a
  rw [filter_mergeSort_of_pairwise htrans htotal htied] at hfiltered
  have hbefore : [a, b].Sublist (items.filter fun c => le a c && le c a) := by simpa [hrefl, hle, hge] using hfiltered
  exact List.pairwise_iff_forall_sublist.mp hR (hbefore.trans List.filter_sublist)

end Stability

/-! ## Times -/

/-- Every double has a place of its own in the total order. -/
theorem Double.rank_injective {x y : Double} (h : x.rank = y.rank) : x = y := by
  obtain ⟨x⟩ := x
  obtain ⟨y⟩ := y
  have hx := x.toNat_lt
  have hy := y.toNat_lt
  have htop : twoTo 63 = 9223372036854775808 := rfl
  simp only [rank, isNegative, magnitude, htop, decide_eq_true_eq] at h
  have hbits : x.toNat = y.toNat := by
    split at h <;> split at h <;> omega
  rw [UInt64.toNat_inj.mp hbits]

section Times

variable {a b c : Option Double}

theorem timeLe_total (a b : Option Double) : (timeLe a b || timeLe b a) = true := by
  cases a <;> cases b <;> simp [timeLe]
  omega

theorem timeLe_trans (hab : timeLe a b = true) (hbc : timeLe b c = true) : timeLe a c = true := by
  cases a <;> cases b <;> cases c <;> simp [timeLe] at *
  omega

theorem timeLe_antisymm (hab : timeLe a b = true) (hba : timeLe b a = true) : a = b := by
  cases a <;> cases b <;> simp [timeLe] at *
  exact Double.rank_injective (by omega)

/-- Sorted records are in the order of their times. -/
theorem pairwise_sortByTime (column : String) (rows : List Record) :
    (sortByTime column rows).Pairwise fun r s => timeLe (timeOf? column r) (timeOf? column s) = true := by
  unfold sortByTime
  refine List.pairwise_mergeSort (fun _ _ _ => ?_) (fun _ _ => ?_) rows
  · exact timeLe_trans
  · exact timeLe_total _ _

/-- Records are sorted once. -/
theorem sortByTime_sortByTime (column : String) (rows : List Record) :
    sortByTime column (sortByTime column rows) = sortByTime column rows :=
  List.mergeSort_of_pairwise (pairwise_sortByTime column rows)

/-- The order of time leaves nothing of the order in which records with different times come. -/
theorem sortByTime_eq_of_perm {column : String} {rows others : List Record} (hperm : rows.Perm others)
    (hdistinct : ∀ r ∈ rows, ∀ s ∈ rows, timeOf? column r = timeOf? column s → r = s) :
    sortByTime column rows = sortByTime column others :=
  mergeSort_eq_of_perm (fun _ _ _ => timeLe_trans) (fun _ _ => timeLe_total _ _) hperm
    fun r hr s hs hrs hsr => hdistinct r hr s hs (timeLe_antisymm hrs hsr)

end Times

/-! ## Tag values -/

/-- Lists of texts are compared by the first text in which they differ. -/
theorem textsLe_cons_cons {a b : String} {as bs : List String} :
    textsLe (a :: as) (b :: bs) = true ↔ a < b ∨ a = b ∧ textsLe as bs = true := by
  rw [textsLe]
  split
  · next hlt => simp [hlt]
  · next hlt =>
    split
    · next hgt =>
      have hne : a ≠ b := fun h => String.lt_irrefl b (h ▸ hgt)
      simp [hlt, hne]
    · next hgt =>
      have heq : a = b := String.le_antisymm (String.not_lt.mp hgt) (String.not_lt.mp hlt)
      simp [heq]

theorem textsLe_total : ∀ as bs : List String, (textsLe as bs || textsLe bs as) = true
  | [], _ => by simp [textsLe]
  | _ :: _, [] => by simp [textsLe]
  | a :: as, b :: bs => by
    have ih := textsLe_total as bs
    simp only [Bool.or_eq_true, textsLe_cons_cons] at ih ⊢
    by_cases hab : a < b
    · exact .inl (.inl hab)
    by_cases hba : b < a
    · exact .inr (.inl hba)
    have heq : a = b := String.le_antisymm (String.not_lt.mp hba) (String.not_lt.mp hab)
    exact ih.imp (fun h => .inr ⟨heq, h⟩) fun h => .inr ⟨heq.symm, h⟩

theorem textsLe_trans : ∀ {as bs cs : List String}, textsLe as bs = true → textsLe bs cs = true → textsLe as cs = true
  | [], _, _, _, _ => rfl
  | _ :: _, [], _, hab, _ => nomatch hab
  | _ :: _, _ :: _, [], _, hbc => nomatch hbc
  | a :: as, b :: bs, c :: cs, hab, hbc => by
    rw [textsLe_cons_cons] at hab hbc ⊢
    rcases hab with hab | ⟨rfl, hab⟩
    · rcases hbc with hbc | ⟨rfl, -⟩
      · exact .inl (String.lt_trans hab hbc)
      · exact .inl hab
    · exact hbc.imp_right fun hbc => ⟨hbc.1, textsLe_trans hab hbc.2⟩

theorem textsLe_antisymm : ∀ {as bs : List String}, textsLe as bs = true → textsLe bs as = true → as = bs
  | [], [], _, _ => rfl
  | [], _ :: _, _, hba => nomatch hba
  | _ :: _, [], hab, _ => nomatch hab
  | a :: as, b :: bs, hab, hba => by
    rw [textsLe_cons_cons] at hab hba
    rcases hab with hab | ⟨rfl, hab⟩
    · rcases hba with hba | ⟨rfl, -⟩
      · exact absurd (String.lt_trans hab hba) (String.lt_irrefl a)
      · exact absurd hab (String.lt_irrefl _)
    · rcases hba with hba | ⟨-, hba⟩
      · exact absurd hba (String.lt_irrefl a)
      · rw [textsLe_antisymm hab hba]

/-- The order of tag values is that of lists of texts. -/
theorem textsLe_iff : ∀ {as bs : List String}, textsLe as bs = true ↔ as < bs ∨ as = bs
  | [], [] => by simp [textsLe]
  | [], _ :: _ => by simp [textsLe]
  | _ :: _, [] => by simp [textsLe]
  | a :: as, b :: bs => by
    rw [textsLe_cons_cons, textsLe_iff, List.cons_lt_cons_iff, List.cons.injEq, and_or_left, or_assoc]

/-! ## Groups by texts -/

section Groups

variable {α β : Type} {key : α → List String} {items group : List α} {texts : List String}

/-- Items grouped by texts, in the order of those. -/
def groupsByTexts (key : α → List String) (items : List α) : List (List String × List α) :=
  (groupOn key items).mergeSort fun a b => textsLe a.1 b.1

/-- The groups are those of the texts that occur, each with all of their items. -/
theorem mem_groupsByTexts : (texts, group) ∈ groupsByTexts key items ↔
    (∃ item ∈ items, key item = texts) ∧ group = items.filter fun item => key item = texts :=
  List.mem_mergeSort.trans (mem_groupOn key items)

/-- The groups are in the strict order of their texts. -/
theorem pairwise_groupsByTexts : (groupsByTexts key items).Pairwise fun a b => a.1 < b.1 := by
  have hsorted : (groupsByTexts key items).Pairwise fun a b => textsLe a.1 b.1 = true := by
    refine List.pairwise_mergeSort (fun _ _ _ => ?_) (fun _ _ => ?_) _
    · exact textsLe_trans
    · exact textsLe_total _ _
  have hkeys : (groupsByTexts key items).Pairwise fun a b => a.1 ≠ b.1 := by
    refine ((List.mergeSort_perm _ _).pairwise_iff fun hne => Ne.symm hne).mpr ?_
    exact List.pairwise_map.mp (nodup_groupOn key items)
  exact (hsorted.and hkeys).imp fun h => (textsLe_iff.mp h.1).resolve_right h.2

/-- Together the groups hold the items, each as often as the list. -/
theorem flatten_groupsByTexts_perm : ((groupsByTexts key items).map Prod.snd).flatten.Perm items :=
  ((List.mergeSort_perm _ _).map _).flatten.trans (flatten_groupOn_perm key items)

/-- Groups of what items stand for are the groups of the items. -/
theorem groupsByTexts_map (f : β → α) (items : List β) :
    groupsByTexts key (items.map f) =
      (groupsByTexts (fun item => key (f item)) items).map (Prod.map id (List.map f)) := by
  rw [groupsByTexts, groupOn_map]
  exact (List.map_mergeSort (s := fun a b : List String × List α => textsLe a.1 b.1) fun _ _ _ _ => rfl).symm

end Groups

section Series

variable {tags : List String} {records others : List Record}

theorem seriesOf_eq : seriesOf tags records = (groupsByTexts (tagTexts tags) records).map Prod.snd := rfl

/-- The series of records are the lists of all with the tag values of one of them. -/
theorem mem_seriesOf {series : List Record} :
    series ∈ seriesOf tags records ↔
      ∃ r ∈ records, series = records.filter fun s => tagTexts tags s = tagTexts tags r := by
  rw [seriesOf_eq, List.mem_map]
  constructor
  · rintro ⟨⟨texts, group⟩, hgroup, rfl⟩
    obtain ⟨⟨r, hr, rfl⟩, rfl⟩ := mem_groupsByTexts.mp hgroup
    exact ⟨r, hr, rfl⟩
  · rintro ⟨r, hr, rfl⟩
    exact ⟨(_, _), mem_groupsByTexts.mpr ⟨⟨r, hr, rfl⟩, rfl⟩, rfl⟩

theorem seriesOf_map (arrange : List Record → List Record) :
    (seriesOf tags records).map arrange =
      (((groupOn (tagTexts tags) records).map (Prod.map id arrange)).mergeSort fun a b => textsLe a.1 b.1).map
        Prod.snd := by
  have hsort := List.map_mergeSort (r := fun a b => textsLe a.1 b.1) (s := fun a b => textsLe a.1 b.1)
    (f := Prod.map id arrange) (l := groupOn (tagTexts tags) records) fun _ _ _ _ => rfl
  rw [seriesOf, ← hsort, List.map_map, List.map_map]
  rfl

/-- Arranged series do not depend on the order of the records if none of them does. -/
theorem seriesOf_map_eq_of_perm {arrange : List Record → List Record} (hperm : records.Perm others)
    (harrange : ∀ texts, arrange (records.filter fun r => tagTexts tags r = texts) =
      arrange (others.filter fun r => tagTexts tags r = texts)) :
    (seriesOf tags records).map arrange = (seriesOf tags others).map arrange := by
  rw [seriesOf_map, seriesOf_map]
  refine congrArg _ (mergeSort_eq_of_perm (fun _ _ _ => textsLe_trans) (fun _ _ => textsLe_total _ _) ?_ ?_)
  · refine (List.perm_ext_iff_of_nodup nodup_map_groupOn nodup_map_groupOn).mpr fun ⟨texts, rows⟩ => ?_
    rw [mem_map_groupOn, mem_map_groupOn, harrange texts]
    simp only [hperm.mem_iff]
  · rintro ⟨texts, rows⟩ hrows ⟨_, rows'⟩ hrows' hle hge
    obtain rfl := textsLe_antisymm hle hge
    rw [(mem_map_groupOn.mp hrows).2, (mem_map_groupOn.mp hrows').2]

end Series

end PanelQuery
