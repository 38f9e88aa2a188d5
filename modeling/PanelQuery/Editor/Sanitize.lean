import PanelQuery.Editor.Options
import PanelQuery.Payload

/-!
# Sanitizing

`Form.sanitize` brings a form in line with the options of its table: keys that a clause does not offer are cleared,
parameters are cut or padded to the number that their function takes, and aliases that cannot be kept are dropped.
What is offered is determined once, from the form as it was.
-/

namespace PanelQuery

namespace Row

/-- Whether sanitizing leaves the key of a row alone: it has none, it was picked from a select row, or it orders by a
time bucket. -/
def isExempt (r : Row) : Bool := r.key.isEmpty || r.fromSelect.isSome || Text.startsWith r.key bucketKeyStart

/-- The row without its key, unless that may stay. -/
def keepOffered (offered : FieldOptions) (r : Row) : Row := if r.isExempt || offered.allows r then r else r.clearKey

/-- A metric's list of parameters as long as its function wants. -/
def fitParams (t : TableOptions) (r : Row) : Row :=
  if r.kind == .metric && !r.func.isEmpty then
    match t.function? r.func, r.params with
    | some func, .list items =>
      let kept := items.take func.paramCount
      { r with params := .list (kept ++ List.replicate (func.paramCount - kept.length) .empty) }
    | _, _ => r
  else r

/-- A selected row without an alias, if its column cannot be renamed. -/
def dropFixedAlias (t : TableOptions) (r : Row) : Row :=
  if Text.contains r.key "resource_gl" || (r.isMetric && t.isMapMetric r.key) then { r with aliasName := "" } else r

end Row

namespace Form

/-- The form with a function applied to the rows of each clause. -/
def mapRows (f : Form) (g : Clause → Row → Row) : Form :=
  { f with
    select := f.select.map (g .select)
    filter := f.filter.map (g .filter)
    having := f.having.map (g .having)
    groupBy := f.groupBy.map (g .groupBy)
    orderBy := f.orderBy.map (g .orderBy) }

/-- The form in line with the options of its table. -/
def sanitize (f : Form) (t : TableOptions) : Form :=
  let fitted := f.mapRows fun c r => (r.keepOffered (clauseOptions t f c)).fitParams t
  { fitted with select := fitted.select.map (Row.dropFixedAlias t) }

end Form
end PanelQuery
