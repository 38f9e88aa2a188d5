import PanelQuery.Domain.LabelTable
import PanelQuery.Text.Composition

/-!
# Labels

What a label of a domain may look like beyond ASCII (`isLabel`): it does not begin with a mark, and the two invisible
characters that join letters or keep them apart stand only where they make a difference, behind a mark that ends a
syllable or between letters that would join.
-/

namespace PanelQuery.Domain

def markRanges : List (Nat × Nat) := Text.tableRanges markTable

/-- The letters that join on both sides. -/
def joinsBothRanges : List (Nat × Nat) := Text.tableRanges joinsBothTable

/-- The letters that join the one before them. -/
def joinsBeforeRanges : List (Nat × Nat) := Text.tableRanges joinsBeforeTable

/-- The letters that join the one after them. -/
def joinsAfterRanges : List (Nat × Nat) := Text.tableRanges joinsAfterTable

def joinsAcrossRanges : List (Nat × Nat) := Text.tableRanges joinsAcrossTable

/-- Whether a character is a combining mark. -/
def isMark (c : Char) : Bool := Text.inRanges markRanges c.toNat

/-- Whether letters join across a character. -/
def joinsAcross (c : Char) : Bool := Text.inRanges joinsAcrossRanges c.toNat

def joinsAfter (c : Char) : Bool :=
  Text.inRanges joinsBothRanges c.toNat || Text.inRanges joinsAfterRanges c.toNat

def joinsBefore (c : Char) : Bool :=
  Text.inRanges joinsBothRanges c.toNat || Text.inRanges joinsBeforeRanges c.toNat

/-- The class of the marks that end a syllable. -/
def viramaClass : Nat := 9

/-- The character that keeps letters apart. -/
def nonJoiner : Nat := 0x200C

def joiner : Nat := 0x200D

/-- Whether a character may stand between those before it, last first, and those after it. -/
def isPlaced (before : List Char) (c : Char) (after : List Char) : Bool :=
  let isBehindVirama := (before.head?).any fun last => Text.combiningClass last.toNat == viramaClass
  if c.toNat = joiner then isBehindVirama
  else if c.toNat = nonJoiner then
    isBehindVirama ||
      (((before.dropWhile joinsAcross).head?).any joinsAfter && ((after.dropWhile joinsAcross).head?).any joinsBefore)
  else true

/-- Whether all characters may stand where they do; `before` holds those in front of them, last first. -/
def arePlaced (before : List Char) : List Char → Bool
  | [] => true
  | c :: cs => isPlaced before c cs && arePlaced (c :: before) cs

/-- Whether a text of plain characters is a label. -/
def isLabel (cs : List Char) : Bool := !(cs.head?).any isMark && arePlaced [] cs

end PanelQuery.Domain
