/-!
# Grouping by a key

`groupOn` sorts the items of a list into groups by a key. Groups come in the order in which their keys first occur,
and the items of a group in the order of the list.
-/

namespace PanelQuery

/-- Adds an item to the group of its key, or opens that group at the end. -/
def insertGroup [DecidableEq κ] (key : κ) (item : α) : List (κ × List α) → List (κ × List α)
  | [] => [(key, [item])]
  | (other, items) :: rest =>
    if other = key then (other, items ++ [item]) :: rest else (other, items) :: insertGroup key item rest

/-- The groups of the items by their keys. -/
def groupOn [DecidableEq κ] (key : α → κ) (items : List α) : List (κ × List α) :=
  items.foldl (fun groups item => insertGroup (key item) item groups) []

end PanelQuery
