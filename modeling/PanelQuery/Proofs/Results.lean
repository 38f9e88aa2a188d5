import Mathlib.Data.List.Forall2

/-!
# Results of steps that may fail

A step after another gives a result if both do (`bind_eq_ok_iff`). A list of results is a result if each of them is
(`mapM_eq_ok_iff`), and then it has one value for each item (`mapM_eq_ok_iff_forall₂`). Lists that are related item by
item are read from either end (`exists_of_mem_forall₂`, `forall₂_map_right_of_forall`).
-/

namespace PanelQuery

section Results

variable {ε α β : Type} {g : α → Except ε β} {items : List α} {ys : List β}

theorem toOption_eq_some_iff {outcome : Except ε α} {a : α} : outcome.toOption = some a ↔ outcome = .ok a := by
  cases outcome <;> simp [Except.toOption]

/-- A step gives a result exactly if it does so on the result of the step before. -/
theorem bind_eq_ok_iff {x : Except ε α} {y : β} : x >>= g = .ok y ↔ ∃ a, x = .ok a ∧ g a = .ok y := by
  cases x with
  | error e => exact ⟨nofun, nofun⟩
  | ok a =>
    constructor
    · exact fun h => ⟨a, rfl, h⟩
    · rintro ⟨_, ha, h⟩
      exact Except.ok.inj ha ▸ h

theorem map_eq_ok_iff {x : Except ε α} {f : α → β} {y : β} : x.map f = .ok y ↔ ∃ a, x = .ok a ∧ f a = y := by
  cases x <;> simp [Except.map]

/-- A list of results is a result exactly if each of them is. -/
theorem mapM_eq_ok_iff : ∀ {items : List α} {ys : List β}, items.mapM g = .ok ys ↔ items.map g = ys.map .ok
  | [], ys => by cases ys <;> simp [pure, Except.pure]
  | item :: rest, ys => by
    rw [List.mapM_cons, List.map_cons, bind_eq_ok_iff, eq_comm (b := List.map _ ys),
      List.map_eq_cons_iff]
    constructor
    · rintro ⟨y, hy, hrest⟩
      obtain ⟨zs, hzs, hys⟩ := bind_eq_ok_iff.mp hrest
      exact ⟨y, zs, (Except.ok.inj hys).symm, hy.symm, (mapM_eq_ok_iff.mp hzs).symm⟩
    · rintro ⟨y, zs, rfl, hy, hzs⟩
      exact ⟨y, hy.symm, bind_eq_ok_iff.mpr ⟨zs, mapM_eq_ok_iff.mpr hzs.symm, rfl⟩⟩

theorem mapM_eq_ok_iff_forall₂ : items.mapM g = .ok ys ↔ List.Forall₂ (fun item y => g item = .ok y) items ys := by
  rw [mapM_eq_ok_iff, ← List.forall₂_eq_eq_eq, List.forall₂_map_left_iff, List.forall₂_map_right_iff]

theorem mem_of_mapM_eq_ok {y : β} (h : items.mapM g = .ok ys) : y ∈ ys ↔ ∃ item ∈ items, g item = .ok y := by
  rw [← List.mem_map, mapM_eq_ok_iff.mp h]
  simp

/-- There is a list of results exactly if no item is refused. -/
theorem exists_mapM_eq_ok_iff : (∃ ys, items.mapM g = .ok ys) ↔ ∀ item ∈ items, ∃ y, g item = .ok y := by
  constructor
  · rintro ⟨ys, h⟩ item hitem
    have hmem : g item ∈ ys.map Except.ok := mapM_eq_ok_iff.mp h ▸ List.mem_map_of_mem hitem
    obtain ⟨y, _, hy⟩ := List.mem_map.mp hmem
    exact ⟨y, hy.symm⟩
  · intro h
    induction items with
    | nil => exact ⟨[], rfl⟩
    | cons item rest ih =>
      obtain ⟨y, hy⟩ := h item List.mem_cons_self
      obtain ⟨ys, hys⟩ := ih fun other hother => h other (List.mem_cons_of_mem _ hother)
      refine ⟨y :: ys, mapM_eq_ok_iff.mpr ?_⟩
      rw [List.map_cons, hy, mapM_eq_ok_iff.mp hys, List.map_cons]

end Results

section Related

variable {α β : Type} {R : α → β → Prop}

/-- Each item of the first list is related to one of the second. -/
theorem exists_of_mem_forall₂ {l : List α} {m : List β} (h : List.Forall₂ R l m) {a : α} (ha : a ∈ l) :
    ∃ b ∈ m, R a b := by
  induction h with
  | nil => cases ha
  | @cons _ b _ _ hab _ ih =>
    rcases List.mem_cons.mp ha with rfl | ha
    · exact ⟨b, List.mem_cons_self, hab⟩
    · obtain ⟨b, hb, hab⟩ := ih ha
      exact ⟨b, List.mem_cons_of_mem _ hb, hab⟩

theorem forall₂_map_right_of_forall {g : α → β} (h : ∀ a, R a (g a)) (items : List α) :
    List.Forall₂ R items (items.map g) :=
  List.forall₂_map_right_iff.mpr (List.forall₂_same.mpr fun a _ => h a)

end Related

end PanelQuery
