import PanelQuery.Querier.Result
import PanelQuery.Text.Blank
import PanelQuery.Text.Search

/-!
# Aliases

The name that the form gives to a series may refer to columns as `${column}`. `renderAlias` copies the alias with each
reference replaced by the text of the value in a record. It is read once; references to columns that the record
does not have, or whose name has a blank in it, stay as they are written.
-/

namespace PanelQuery

/-- Recognises a reference to a column at the front of a text. -/
def columnPart? (record : Record) : List Char → Option (List Char × Nat)
  | '$' :: '\x7b' :: cs =>
    let name := cs.takeWhile (· != '\x7d')
    if name.length < cs.length then
      let written := '$' :: '\x7b' :: name ++ ['\x7d']
      match Fields.get? (String.ofList name) record with
      | some value => some (if name.any Text.isBlank then written else value.shown.toList, written.length)
      | none => some (written, written.length)
    else none
  | _ => none

/-- An alias with its references replaced by the values of a record. -/
def renderAlias (aliasName : String) (record : Record) : String :=
  String.ofList (Text.splice (columnPart? record) 0 aliasName.toList)

end PanelQuery
