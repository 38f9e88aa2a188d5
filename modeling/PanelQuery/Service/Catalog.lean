import PanelQuery.Lru
import PanelQuery.Querier.Dialogue

/-!
# The catalog of tables

Tables are loaded once and kept while they are in use. A load that fails at any of its statements keeps nothing.
-/

namespace PanelQuery

/-- The tables in use, by database and name. -/
abbrev Catalog := Lru (String × String) Table

/-- A table, loaded unless the catalog holds it, and the catalog afterwards. -/
def Catalog.getOrLoad (c : Catalog) (db table : String) : Dialogue (Except QuerierError Table × Catalog) := do
  let c := c.touch (db, table)
  match c.find? (db, table) with
  | some held => return (.ok held, c)
  | none =>
    match ← (Dialogue.loadTable db table).run with
    | .ok loaded => return (.ok loaded, c.insert (db, table) loaded)
    | .error error => return (.error error, c)

end PanelQuery
