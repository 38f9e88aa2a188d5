import PanelQuery.Proofs.Condition.Filters
import PanelQuery.Proofs.Relationship

/-!
# Columns of identifiers are told apart

The two sides of a condition are compared on different columns, since a column of identifiers tells the key that it was
made from (`IdColumn.key_eq`). In a relationship only the resources and addresses on a side are rewritten. Two rows with
different keys share a column exactly if one of them is rewritten to the key of the other, which is not
(`columns_kept_apart`).
-/

namespace PanelQuery

/-! ## The sides of a condition -/

namespace Comparison

variable {c c' : Comparison} {ending ending' : String}

theorem onSide_key : (c.onSide ending).key =
    if c.op.matchesIds then resourceIdKey (c.key ++ ending) else c.key ++ ending := rfl

/-- The column of a side tells the key and the side. -/
theorem onSide_key_eq_iff (hids : c.op.matchesIds = c'.op.matchesIds) (hending : ending ∈ sideEndings)
    (hending' : ending' ∈ sideEndings) :
    (c.onSide ending).key = (c'.onSide ending').key ↔ c.key = c'.key ∧ ending = ending' := by
  have hcolumns : (c.onSide ending).key = (c'.onSide ending').key ↔ c.key ++ ending = c'.key ++ ending' := by
    rw [onSide_key, onSide_key, hids]
    split
    · exact resourceIdKey_injective.eq_iff
    · exact Iff.rfl
  rw [hcolumns]
  constructor
  · exact append_ending_inj hending hending'
  · rintro ⟨hkey, rfl⟩
    rw [hkey]

/-- The two sides are compared on different columns. -/
theorem onSide_key_ne : (c.onSide "_0").key ≠ (c.onSide "_1").key := by
  rw [ne_eq, onSide_key_eq_iff rfl (by decide) (by decide)]
  exact fun h => absurd h.2 (by decide)

end Comparison

/-! ## The rows of a relationship -/

namespace Row

variable {r s : Row}

/-- Whether the column of a group-by row is that of the identifiers of its key. -/
def namesIds (r : Row) : Bool := r.side.isSome && (r.isResource || r.isIp)

/-- The column that a group-by row stands for in a relationship. -/
def groupColumn (r : Row) : String := if r.side.isSome then Relationship.sideKey r else r.realKey

theorem groupColumn_eq : r.groupColumn = if r.namesIds then resourceIdKey r.realKey else r.realKey := by
  unfold groupColumn namesIds Relationship.sideKey
  cases r.side <;> simp

/-- Whether the column of a row is rewritten to the key of a row whose column is not. -/
def TakesKeyOf (r s : Row) : Prop := r.namesIds = true ∧ s.namesIds = false ∧ resourceIdKey r.realKey = s.realKey

theorem groupColumn_eq_iff (hkeys : r.realKey ≠ s.realKey) :
    r.groupColumn = s.groupColumn ↔ r.TakesKeyOf s ∨ s.TakesKeyOf r := by
  rw [groupColumn_eq, groupColumn_eq]
  unfold TakesKeyOf
  cases hr : r.namesIds <;> cases hs : s.namesIds
  · simp [hkeys]
  · simp [eq_comm]
  · simp
  · simp [resourceIdKey_injective.eq_iff, hkeys]

end Row

namespace Relationship

variable {groupBy : List Row} {returned : List String} {r : Row}

/-- The columns at an end, or the common ones. -/
def columnsOf (relationship : Relationship) : Option Side → List String
  | some side => relationship.columnsAt side
  | none => relationship.common

/-- The column of a row is listed where the row stands. -/
theorem groupColumn_mem_of (hr : r ∈ groupBy) (hkey : r.hasKey = true) :
    r.groupColumn ∈ (of groupBy returned).columnsOf r.side := by
  have hmem : r ∈ (groupBy.filter Row.hasKey).filter fun row => row.side == r.side :=
    List.mem_filter.mpr ⟨List.mem_filter.mpr ⟨hr, hkey⟩, beq_iff_eq.mpr rfl⟩
  unfold Row.groupColumn
  cases hside : r.side with
  | none =>
    rw [hside] at hmem
    refine List.mem_flatMap.mpr ⟨r, hmem, ?_⟩
    simp only [commonKeys]
    split
    · exact List.mem_cons_self
    · exact List.mem_cons_self
  | some side =>
    rw [hside] at hmem
    cases side with
    | source => exact List.mem_map_of_mem hmem
    | target => exact List.mem_map_of_mem hmem

end Relationship

/-- **Which columns are told apart.** Different keys have different columns of identifiers, and the sides of a
condition are compared on different columns. Two group-by rows with different keys share a column of the relationship
exactly if one of them is rewritten to the key of the other, which is not. -/
theorem columns_kept_apart :
    Function.Injective resourceIdKey ∧
    (∀ c : Comparison, ∀ l ∈ (c.onSide "_0").splitLike, ∀ l' ∈ (c.onSide "_1").splitLike, l.key ≠ l'.key) ∧
    ∀ (groupBy : List Row) (returned : List String), ∀ r ∈ groupBy, ∀ s ∈ groupBy,
      r.hasKey = true → s.hasKey = true → r.realKey ≠ s.realKey →
        r.groupColumn ∈ (Relationship.of groupBy returned).columnsOf r.side ∧
        s.groupColumn ∈ (Relationship.of groupBy returned).columnsOf s.side ∧
        (r.groupColumn = s.groupColumn ↔ r.TakesKeyOf s ∨ s.TakesKeyOf r) := by
  refine ⟨resourceIdKey_injective, fun c l hl l' hl' => ?_, fun groupBy returned r hr s hs hrkey hskey hkeys => ?_⟩
  · rw [Comparison.splitLike_eq] at hl hl'
    rw [Comparison.key_of_mem_leavesOn hl, Comparison.key_of_mem_leavesOn hl']
    exact Comparison.onSide_key_ne
  · exact ⟨Relationship.groupColumn_mem_of hr hrkey, Relationship.groupColumn_mem_of hs hskey,
      Row.groupColumn_eq_iff hkeys⟩

/-- A condition on both sides, and two resources of which the key of one is the column of the other. -/
theorem columns_kept_apart_resources :
    let c : Comparison := { key := "pod", op := .equal, val := .one (.text "a"), whereOnly := true }
    let r : Row := { Row.tag "pod" with side := some .source, isResource := true }
    let s : Row := { Row.tag "pod_id" with side := some .target, isResource := true }
    (c.onSide "_0" ∈ (c.onSide "_0").splitLike ∧ c.onSide "_1" ∈ (c.onSide "_1").splitLike ∧
      (c.onSide "_0").key ≠ (c.onSide "_1").key) ∧
    r ∈ [r, s] ∧ s ∈ [r, s] ∧ r.hasKey = true ∧ s.hasKey = true ∧ r.realKey ≠ s.realKey ∧
      r.groupColumn ≠ s.groupColumn := by
  intro c r s
  have hclient : c.onSide "_0" ∈ (c.onSide "_0").splitLike := List.mem_singleton_self _
  have hserver : c.onSide "_1" ∈ (c.onSide "_1").splitLike := List.mem_singleton_self _
  have hr : r ∈ [r, s] := List.mem_cons_self
  have hs : s ∈ [r, s] := List.mem_cons_of_mem r List.mem_cons_self
  have hkeys : r.realKey ≠ s.realKey := by decide
  obtain ⟨-, hsides, hrows⟩ := columns_kept_apart
  refine ⟨⟨hclient, hserver, hsides c _ hclient _ hserver⟩, hr, hs, rfl, rfl, hkeys, fun hcolumns => ?_⟩
  rcases (hrows [r, s] [] r hr s hs rfl rfl hkeys).2.2.mp hcolumns with ⟨-, hplain, -⟩ | ⟨-, hplain, -⟩
  · cases hplain
  · cases hplain

/-- A resource and a row that is none can share a column. -/
theorem columns_kept_apart_not :
    let r : Row := { Row.tag "pod" with side := some .source, isResource := true }
    let s : Row := { Row.tag "pod_id" with side := some .source }
    r.realKey ≠ s.realKey ∧ (Relationship.of [r, s] []).source = ["pod_id", "pod_id"] := by
  decide

end PanelQuery
