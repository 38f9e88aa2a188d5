/-!
# Bounded maps

A map that holds at most `capacity` entries and gives up the one whose use is longest ago. Looking a key up counts as
a use. The entries are held in the order of their last use.
-/

namespace PanelQuery

/-- A bounded map; the entry used last comes first. -/
structure Lru (κ ν : Type) where
  capacity : Nat
  entries : List (κ × ν)
  deriving Repr

namespace Lru

variable {κ ν : Type} [DecidableEq κ]

/-- An empty map, which holds at least one entry. -/
def empty (capacity : Nat) : Lru κ ν := ⟨max capacity 1, []⟩

def find? (m : Lru κ ν) (key : κ) : Option ν := (m.entries.find? fun entry => entry.1 = key).map Prod.snd

/-- The map after a key has been used. -/
def touch (m : Lru κ ν) (key : κ) : Lru κ ν :=
  { m with
    entries :=
      match m.entries.find? fun entry => entry.1 = key with
      | some entry => entry :: m.entries.filter fun other => other.1 ≠ key
      | none => m.entries }

/-- The map with a value for a key, as the entry used last. -/
def insert (m : Lru κ ν) (key : κ) (value : ν) : Lru κ ν :=
  { m with entries := ((key, value) :: m.entries.filter fun other => other.1 ≠ key).take m.capacity }

end Lru
end PanelQuery
