import PanelQuery.Table.Basic
import PanelQuery.Variable.Basic

/-!
# The context of a query

What a form is compiled against besides its own fields: variables, the range of time and the table.
-/

namespace PanelQuery

/-- A range of time, in seconds. -/
structure TimeRange where
  start : Int
  stop : Int
  deriving DecidableEq, Repr

/-- The length of a range, held within the signed 64-bit integers. -/
def TimeRange.seconds (r : TimeRange) : Int := max leastInt64 (min (r.stop - r.start) greatestInt64)

/-- What a form is compiled against. -/
structure Context extends VarContext where
  range : Option TimeRange := none
  table : Option Table := none
  deriving DecidableEq, Repr

end PanelQuery
