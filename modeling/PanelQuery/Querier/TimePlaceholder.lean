import PanelQuery.Payload

/-!
# Time placeholders

A compiled statement leaves the bounds of time open. `substituteTime` puts the bounds of a range in the place of the
placeholders; a pair of single quotes right around a placeholder goes with it.
-/

namespace PanelQuery

/-- A statement with the bounds of a range in the place of its placeholders. -/
def substituteTime (sql : String) (range : TimeRange) : String :=
  let start := toString range.start
  let stop := toString range.stop
  let quoted (placeholder : String) : String := "'" ++ placeholder ++ "'"
  let sql := Text.replaceAll sql (quoted timeFromPlaceholder) start
  let sql := Text.replaceAll sql (quoted timeToPlaceholder) stop
  let sql := Text.replaceAll sql timeFromPlaceholder start
  Text.replaceAll sql timeToPlaceholder stop

end PanelQuery
