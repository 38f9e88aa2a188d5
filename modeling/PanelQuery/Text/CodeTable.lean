import PanelQuery.Text.Blank
import PanelQuery.Text.Hex
import PanelQuery.Text.Search

/-!
# Tables of characters

Properties of characters are given by tables of ranges of their codes. A long table is written as a text, whose words
are its rows: hexadecimal numbers with colons between them (`tableRows`).
-/

namespace PanelQuery.Text

def tableRows (table : String) : List (List Nat) :=
  (words table).map fun word => (pieces ':' word.toList).map hexNumber

/-- The range of a row: one code, or the first and the last one. -/
def rowRange? : List Nat → Option (Nat × Nat)
  | [code] => some (code, code)
  | [first, last] => some (first, last)
  | _ => none

def tableRanges (table : String) : List (Nat × Nat) := (tableRows table).filterMap rowRange?

/-- Whether a code lies in one of the ranges. -/
def inRanges (ranges : List (Nat × Nat)) (n : Nat) : Bool :=
  ranges.any fun (first, last) => first ≤ n && n ≤ last

end PanelQuery.Text
