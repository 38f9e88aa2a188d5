import PanelQuery.Domain.DirectionTable
import PanelQuery.Text.CodeTable

/-!
# Directions

Where a domain has letters that run from right to left, each of its labels has to keep to one direction, so that its
characters are not shown among those of its neighbours (`isDirected`).
-/

namespace PanelQuery.Domain

/-- The part of a character in the direction of a text. -/
inductive Direction where
  /-- A letter from left to right. -/
  | latin
  /-- A letter from right to left. -/
  | hebrew
  /-- A letter from right to left, of Arabic and of scripts like it. -/
  | arabic
  | arabicNumber
  | number
  /-- A sign between digits. -/
  | sign
  /-- A separator of numbers. -/
  | separator
  /-- A sign at the end of a number. -/
  | terminator
  /-- A mark. -/
  | attached
  | boundary
  | neutral
  deriving DecidableEq, Repr

namespace Direction

/-- The ranges of the directions other than that from left to right. -/
def ranges : List (Direction × List (Nat × Nat)) :=
  [(hebrew, hebrewTable), (arabic, arabicTable), (arabicNumber, arabicNumberTable), (number, numberTable),
    (sign, signTable), (separator, separatorTable), (terminator, terminatorTable), (attached, attachedTable),
    (boundary, boundaryTable), (neutral, neutralTable)].map
    fun (direction, table) => (direction, Text.tableRanges table)

def of (c : Char) : Direction :=
  ((ranges.find? fun (_, range) => Text.inRanges range c.toNat).map Prod.fst).getD latin

/-- Whether a letter runs from right to left. -/
def isRightToLeft (d : Direction) : Bool := d == hebrew || d == arabic

/-- Whether a character may stand in a label of either direction. -/
def isCommon : Direction → Bool
  | number | sign | separator | terminator | attached | boundary | neutral => true
  | _ => false

end Direction

open Direction

/-- Whether a label keeps to the direction from left to right. -/
def isLeftToRight (ds : List Direction) : Bool :=
  (ds.all fun d => d == latin || d.isCommon) &&
    ((ds.reverse.dropWhile (· == attached)).head?).any fun d => d == latin || d == number

/-- Whether a label keeps to the direction from right to left. -/
def isRightToLeft (ds : List Direction) : Bool :=
  (ds.all fun d => d.isRightToLeft || d == arabicNumber || d.isCommon) &&
    (((ds.reverse.dropWhile (· == attached)).head?).any fun d =>
      d.isRightToLeft || d == arabicNumber || d == number) &&
    !(ds.contains arabicNumber && ds.contains number)

/-- Whether a label keeps to the direction of its first letter. An empty label does. -/
def isDirected (label : List Char) : Bool :=
  match label.map Direction.of with
  | [] => true
  | first :: rest =>
    if first == latin then isLeftToRight (first :: rest)
    else first.isRightToLeft && isRightToLeft (first :: rest)

/-- Whether a text has characters that run from right to left. -/
def hasRightToLeft (cs : List Char) : Bool :=
  cs.any fun c => (Direction.of c).isRightToLeft || Direction.of c == arabicNumber

end PanelQuery.Domain
