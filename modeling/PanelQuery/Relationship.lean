import PanelQuery.Form.Codec
import PanelQuery.ResourceKey

/-!
# Relationships

Which of the columns of an answer describe the source, the destination and the shared part of an edge
(`Relationship.of`).
-/

namespace PanelQuery

/-- The columns of an edge. -/
structure Relationship where
  source : List String := []
  target : List String := []
  common : List String := []
  deriving DecidableEq, Repr

namespace Relationship

/-- The column of a group-by row on a side. -/
def sideKey (r : Row) : String := if r.isResource || r.isIp then resourceIdKey r.realKey else r.realKey

/-- The columns of a group-by row without a side: its key, and the names of its codes if they were returned. -/
def commonKeys (returned : List String) (r : Row) : List String :=
  let companion := "Enum(" ++ r.realKey ++ ")"
  if returned.contains companion then [r.realKey, companion] else [r.realKey]

/-- The columns that the group-by rows stand for, given the names of the returned tags. -/
def of (groupBy : List Row) (returned : List String) : Relationship :=
  let keyed := groupBy.filter Row.hasKey
  { source := (keyed.filter fun row => row.side == some .source).map sideKey
    target := (keyed.filter fun row => row.side == some .target).map sideKey
    common := (keyed.filter fun row => row.side == none).flatMap (commonKeys returned) }

def toFields (r : Relationship) : Fields :=
  [("from", .texts r.source), ("to", .texts r.target), ("common", .texts r.common)]

end Relationship
end PanelQuery
