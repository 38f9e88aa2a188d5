import Mathlib.Data.List.Perm.Subperm
import PanelQuery.Lru

/-!
# What a bounded map finds

What a look-up finds after a value is put (`find?_insert_eq_some`) and after a key is used (`find?_touch`), and what it
finds after any number of uses, of which `latest?` is the last value put under a key:

- what is found is the latest value of its key, whatever was given up in between (`latest?_of_find?_foldl`);
- a map with room for all keys that are put finds the latest value of every key (`find?_foldl`).
-/

namespace PanelQuery
namespace Lru

variable {κ κ' ν : Type} [DecidableEq κ] [DecidableEq κ'] {m : Lru κ ν} {k k' : κ} {v v' : ν}

/-! ## Look-ups -/

def keys (m : Lru κ ν) : List κ := m.entries.map Prod.fst

/-- Only what the map holds is found. -/
theorem find?_isSome_iff : (m.find? k).isSome ↔ k ∈ m.keys := by
  simp [find?, keys]

/-- What is used is found as before. -/
@[simp] theorem find?_touch : (m.touch k).find? k' = m.find? k' := by
  unfold touch find?
  cases hfound : m.entries.find? fun entry => entry.1 = k with
  | none => rfl
  | some entry =>
    have hkey : entry.1 = k := by simpa using List.find?_some hfound
    by_cases hk : k = k'
    · subst hk
      simp [hkey, hfound]
    · have hother : ∀ other : κ × ν, (¬other.1 = k ∧ other.1 = k') ↔ other.1 = k' :=
        fun other => and_iff_right_of_imp fun h => h.trans_ne (Ne.symm hk)
      simp [List.find?_filter, hkey, hk, hother]

/-- A key that is not there cannot be used. -/
theorem touch_of_find?_eq_none (h : m.find? k = none) : m.touch k = m := by
  have hmissing : (m.entries.find? fun entry => entry.1 = k) = none := Option.map_eq_none_iff.mp h
  rw [touch, hmissing]

/-- What is found in the map as it is before anything is given up. -/
theorem find?_put : (Lru.mk m.capacity ((k, v) :: m.entries.filter fun other => other.1 ≠ k)).find? k' =
    if k = k' then some v else m.find? k' := by
  unfold find?
  by_cases hk : k = k'
  · simp [hk]
  · have hother : ∀ other : κ × ν, (¬other.1 = k ∧ other.1 = k') ↔ other.1 = k' :=
      fun other => and_iff_right_of_imp fun h => h.trans_ne (Ne.symm hk)
    simp [List.find?_filter, hk, hother]

/-- What is found after a value is put is that value, or was found before. -/
theorem find?_insert_eq_some (h : (m.insert k v).find? k' = some v') :
    (if k = k' then some v else m.find? k') = some v' := by
  rw [← find?_put]
  obtain ⟨entry, hfound, rfl⟩ := Option.map_eq_some_iff.mp h
  exact Option.map_eq_some_iff.mpr ⟨entry, (List.take_prefix ..).find?_eq_some hfound, rfl⟩

/-- A value that is put is found, whatever is given up for it. -/
theorem find?_insert_self (hroom : 0 < m.capacity) : (m.insert k v).find? k = some v := by
  obtain ⟨n, hn⟩ := Nat.exists_eq_add_one_of_ne_zero (Nat.ne_of_gt hroom)
  simp [insert, find?, hn]

/-- With room for one more, nothing is given up. -/
theorem find?_insert_of_room (hroom : (m.entries.filter fun other => other.1 ≠ k).length < m.capacity) :
    (m.insert k v).find? k' = if k = k' then some v else m.find? k' := by
  rw [← find?_put, insert, List.take_of_length_le hroom]

/-! ## Keys -/

theorem nodup_keys_touch (h : m.keys.Nodup) : (m.touch k).keys.Nodup := by
  unfold touch
  cases hfound : m.entries.find? fun entry => entry.1 = k with
  | none => exact h
  | some entry =>
    have hkey : entry.1 = k := by simpa using List.find?_some hfound
    refine List.nodup_cons.mpr ⟨?_, h.sublist (List.filter_sublist.map _)⟩
    simp [hkey]

/-- A value that is put is the only one of its key. -/
theorem nodup_keys_put (h : m.keys.Nodup) :
    (k :: (m.entries.filter fun other => other.1 ≠ k).map Prod.fst).Nodup := by
  refine List.nodup_cons.mpr ⟨by simp, h.sublist (List.filter_sublist.map _)⟩

theorem nodup_keys_insert (h : m.keys.Nodup) : (m.insert k v).keys.Nodup :=
  (nodup_keys_put h).sublist ((List.take_sublist ..).map _)

/-! ## Uses -/

/-- A use of a map: a value is put under a key, or a key is looked up. -/
inductive Use (κ ν : Type) where
  | store (key : κ) (value : ν)
  | fetch (key : κ)

namespace Use

def key : Use κ ν → κ
  | store k _ | fetch k => k

/-- The use under another name of its key. -/
def mapKey (f : κ → κ') : Use κ ν → Use κ' ν
  | store k v => store (f k) v
  | fetch k => fetch (f k)

/-- The value that is put under a key. -/
def stored? (k : κ) : Use κ ν → Option ν
  | store k' v => if k' = k then some v else none
  | fetch _ => none

end Use

def use (m : Lru κ ν) : Use κ ν → Lru κ ν
  | .store k v => m.insert k v
  | .fetch k => m.touch k

/-- The latest value that was put under a key. -/
def latest? (k : κ) : List (Use κ ν) → Option ν
  | [] => none
  | u :: later => (latest? k later).or (u.stored? k)

section Runs

variable {uses past : List (Use κ ν)} {u : Use κ ν}

theorem latest?_concat : latest? k (past ++ [u]) = (u.stored? k).or (latest? k past) := by
  induction past with
  | nil => cases hu : u.stored? k <;> simp [latest?, hu]
  | cons first past ih => rw [List.cons_append, latest?, ih, latest?, Option.or_assoc]

/-- Only values that are put are the latest of a key. -/
theorem exists_store_of_latest? (h : latest? k uses = some v) : Use.store k v ∈ uses := by
  induction uses with
  | nil => cases h
  | cons u later ih =>
    rcases Option.or_eq_some_iff.mp h with h | ⟨-, h⟩
    · exact List.mem_cons_of_mem _ (ih h)
    · cases u with
      | fetch k' => cases h
      | store k' v' =>
        obtain ⟨rfl, rfl⟩ : k' = k ∧ v' = v := by simpa [Use.stored?] using h
        exact List.mem_cons_self

/-- Under names that keep its key apart, the latest value of a key is the same. -/
theorem latest?_mapKey {f : κ → κ'} (h : ∀ u ∈ uses, f u.key = f k → u.key = k) :
    latest? (f k) (uses.map (Use.mapKey f)) = latest? k uses := by
  induction uses with
  | nil => rfl
  | cons u later ih =>
    have hstored : (u.mapKey f).stored? (f k) = u.stored? k := by
      cases u with
      | fetch k' => rfl
      | store k' v =>
        have hkey : f k' = f k ↔ k' = k := ⟨h _ List.mem_cons_self, congrArg f⟩
        simp [Use.mapKey, Use.stored?, hkey]
    rw [List.map_cons, latest?, latest?, hstored, ih fun u hu => h u (List.mem_cons_of_mem _ hu)]

/-! ### What is found is the latest -/

/-- All that is found is the latest value of its key. -/
def Current (past : List (Use κ ν)) (m : Lru κ ν) : Prop := ∀ k v, m.find? k = some v → latest? k past = some v

theorem Current.use (h : Current past m) (u : Use κ ν) : Current (past ++ [u]) (m.use u) := by
  intro k v hfound
  rw [latest?_concat]
  cases u with
  | fetch k' => exact h k v (find?_touch.symm.trans hfound)
  | store k' v' =>
    have hput := find?_insert_eq_some hfound
    by_cases hk : k' = k
    · simpa [Use.stored?, hk] using hput
    · rw [if_neg hk] at hput
      simpa [Use.stored?, hk] using h k v hput

theorem Current.foldl (h : Current past m) (uses : List (Use κ ν)) :
    Current (past ++ uses) (uses.foldl Lru.use m) := by
  induction uses generalizing past m with
  | nil => simpa using h
  | cons u later ih => simpa using ih (h.use u)

/-- **What is found is the latest value of its key**, whatever was given up in between. -/
theorem latest?_of_find?_foldl {capacity : Nat} (h : (uses.foldl Lru.use (empty capacity)).find? k = some v) :
    latest? k uses = some v := by
  have hempty : Current [] (empty capacity : Lru κ ν) := fun _ _ => nofun
  exact hempty.foldl uses k v h

/-! ### With room for all keys, the latest is found -/

/-- A map that holds the latest value of every key. -/
structure Complete (past : List (Use κ ν)) (m : Lru κ ν) : Prop where
  nodup : m.keys.Nodup
  find?_eq : ∀ k, m.find? k = latest? k past

theorem capacity_use : (m.use u).capacity = m.capacity := by
  cases u <;> rfl

/-- Nothing is given up by a map that has room for all keys. -/
theorem Complete.use (h : Complete past m) {room : List κ} (hroom : ∀ k v, Use.store k v ∈ past ++ [u] → k ∈ room)
    (hlength : room.length ≤ m.capacity) : Complete (past ++ [u]) (m.use u) := by
  cases u with
  | fetch k =>
    refine ⟨nodup_keys_touch h.nodup, fun k' => ?_⟩
    rw [latest?_concat]
    exact find?_touch.trans (h.find?_eq k')
  | store k v =>
    have hheld : ∀ k' ∈ m.keys, k' ∈ room := by
      intro k' hk'
      obtain ⟨v', hv'⟩ := Option.isSome_iff_exists.mp (find?_isSome_iff.mpr hk')
      exact hroom k' v' (List.mem_append_left _ (exists_store_of_latest? ((h.find?_eq k').symm.trans hv')))
    have hput : k :: (m.entries.filter fun other => other.1 ≠ k).map Prod.fst ⊆ room := by
      refine List.cons_subset.mpr ⟨hroom k v (by simp), fun k' hk' => hheld k' ?_⟩
      exact (List.filter_sublist.map Prod.fst).subset hk'
    have hfits := Nat.le_trans ((nodup_keys_put h.nodup).subperm hput).length_le hlength
    rw [List.length_cons, List.length_map] at hfits
    refine ⟨nodup_keys_insert h.nodup, fun k' => ?_⟩
    rw [latest?_concat, Lru.use, find?_insert_of_room hfits, h.find?_eq k']
    by_cases hk : k = k' <;> simp [Use.stored?, hk]

theorem Complete.foldl (h : Complete past m) {room : List κ} (hroom : ∀ k v, Use.store k v ∈ past ++ uses → k ∈ room)
    (hlength : room.length ≤ m.capacity) : Complete (past ++ uses) (uses.foldl Lru.use m) := by
  induction uses generalizing past m with
  | nil => simpa using h
  | cons u later ih =>
    have happend : past ++ u :: later = past ++ [u] ++ later := by simp
    rw [happend] at hroom ⊢
    refine ih (h.use (fun k v hstore => hroom k v (List.mem_append_left _ hstore)) hlength) hroom ?_
    rwa [capacity_use]

/-- **With room for all keys, the latest value of every key is found.** -/
theorem find?_foldl {capacity : Nat} {room : List κ} (hroom : ∀ k v, Use.store k v ∈ uses → k ∈ room)
    (hlength : room.length ≤ max capacity 1) : (uses.foldl Lru.use (empty capacity)).find? k = latest? k uses := by
  have hempty : Complete [] (empty capacity : Lru κ ν) := ⟨List.nodup_nil, fun _ => rfl⟩
  exact (hempty.foldl hroom hlength).find?_eq k

end Runs

end Lru
end PanelQuery
