import PanelQuery.Text.Search

/-!
# Columns of identifiers

The columns that a tag stands for on the two sides of a flow end in `_0` and `_1`. The column of the identifiers of a
resource has `_id` before that ending. Addresses have no identifiers.
-/

namespace PanelQuery

/-- The endings of the columns of the client and of the server. -/
def sideEndings : List String := ["_0", "_1"]

/-- The column of the identifiers of a resource. -/
def resourceIdKey (key : String) : String :=
  if Text.contains key "ip" then key
  else
    match sideEndings.findSome? fun ending => (Text.dropEnd? key ending).map fun stem => stem ++ "_id" ++ ending with
    | some sided => sided
    | none => key ++ "_id"

end PanelQuery
