import PanelQuery.Condition.Basic

/-!
# Trees of conditions

Two readings of a tree of conditions. Its *truth* under an assignment of truth values to comparisons
(`Condition.holds`): a group holds if all, or some, of its members do (`holds_group`). Its *nodes* (`Condition.nodes`):
the tree itself and, for a group, the nodes of its members.
-/

namespace PanelQuery

/-! ## Truth -/

/-- What is true of the comparisons of columns and of expressions. -/
structure Assignment where
  leaf : Comparison → Bool
  composed : Composed → Bool

/-- Whether a property is had as the junction asks: by all, or by some. -/
def Junction.Joins (op : Junction) (members : List α) (p : α → Prop) : Prop :=
  match op with
  | and => ∀ a ∈ members, p a
  | or => ∃ a ∈ members, p a

theorem Junction.joins_map (op : Junction) (f : α → β) (members : List α) (p : β → Prop) :
    op.Joins (members.map f) p ↔ op.Joins members fun a => p (f a) := by
  cases op with
  | and => exact List.forall_mem_map
  | or =>
    constructor
    · rintro ⟨_, hmem, h⟩
      obtain ⟨a, ha, rfl⟩ := List.mem_map.mp hmem
      exact ⟨a, ha, h⟩
    · rintro ⟨a, ha, h⟩
      exact ⟨f a, List.mem_map_of_mem ha, h⟩

namespace Condition

mutual
/-- Whether a condition holds. -/
def holds (t : Assignment) : Condition → Bool
  | leaf c => t.leaf c
  | composed c => t.composed c
  | group .and members => allHold t members
  | group .or members => anyHolds t members

def allHold (t : Assignment) : List Condition → Bool
  | [] => true
  | c :: rest => holds t c && allHold t rest

def anyHolds (t : Assignment) : List Condition → Bool
  | [] => false
  | c :: rest => holds t c || anyHolds t rest
end

variable {t : Assignment}

theorem allHold_iff : ∀ cs : List Condition, allHold t cs = true ↔ ∀ c ∈ cs, c.holds t = true
  | [] => by simp [allHold]
  | c :: rest => by simp [allHold, allHold_iff rest]

theorem anyHolds_iff : ∀ cs : List Condition, anyHolds t cs = true ↔ ∃ c ∈ cs, c.holds t = true
  | [] => by simp [anyHolds]
  | c :: rest => by simp [anyHolds, anyHolds_iff rest]

/-- A group holds as its junction joins its members. -/
theorem holds_group (op : Junction) (members : List Condition) :
    (group op members).holds t = true ↔ op.Joins members fun c => c.holds t = true := by
  cases op with
  | and => rw [holds, allHold_iff]; rfl
  | or => rw [holds, anyHolds_iff]; rfl

/-! ## Nodes -/

mutual
/-- The nodes of a condition: itself, and for a group those of its members. -/
def nodes : Condition → List Condition
  | leaf c => [leaf c]
  | composed c => [composed c]
  | group op members => group op members :: nodesOf members

def nodesOf : List Condition → List Condition
  | [] => []
  | c :: rest => nodes c ++ nodesOf rest
end

/-- The nodes of several conditions are those of one of them. -/
theorem mem_nodesOf {n : Condition} : ∀ {cs : List Condition}, n ∈ nodesOf cs ↔ ∃ c ∈ cs, n ∈ c.nodes
  | [] => by simp [nodesOf]
  | c :: rest => by simp [nodesOf, @mem_nodesOf n rest]

@[simp] theorem mem_nodes_leaf {n : Condition} {c : Comparison} : n ∈ (leaf c).nodes ↔ n = leaf c := by
  rw [nodes, List.mem_singleton]

@[simp] theorem mem_nodes_composed {n : Condition} {c : Composed} : n ∈ (composed c).nodes ↔ n = composed c := by
  rw [nodes, List.mem_singleton]

/-- The nodes of a group are the group and those of its members. -/
theorem mem_nodes_group {n : Condition} {op : Junction} {members : List Condition} :
    n ∈ (group op members).nodes ↔ n = group op members ∨ ∃ c ∈ members, n ∈ c.nodes := by
  rw [nodes, List.mem_cons, mem_nodesOf]

end Condition
end PanelQuery
