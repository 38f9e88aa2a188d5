import PanelQuery.Text.CaseTable
import PanelQuery.Text.CodeTable

/-!
# Lower case

The full lower case mapping of Unicode. One character has two characters for its lower case, and a capital sigma at
the end of a word has a form of its own.
-/

namespace PanelQuery.Text

def isCased (c : Char) : Bool := inRanges casedRanges c.toNat

/-- Whether a character is passed over in the search for one with case. -/
def isCaseIgnorable (c : Char) : Bool := inRanges ignorableRanges c.toNat

/-- Whether a run has the character of that code. -/
def CaseRun.contains (r : CaseRun) (n : Nat) : Bool := r.first ≤ n && n ≤ r.last && (n - r.first) % r.step == 0

/-- The lower case of a character by itself. -/
def lowerChar (c : Char) : List Char :=
  if c.toNat = 0x130 then ['i', Char.ofNat 0x307]
  else
    match lowerRuns.find? fun run => run.contains c.toNat with
    | some run => [Char.ofNat ((c.toNat : Int) + run.offset).toNat]
    | none => [c]

/-- Whether a letter follows, characters without case apart. -/
def letterFollows (cs : List Char) : Bool := ((cs.dropWhile isCaseIgnorable).head?).any isCased

/-- The lower case of a text; `before` holds the characters in front of it, last first. -/
def lowerFrom (before : List Char) : List Char → List Char
  | [] => []
  | c :: cs =>
    let lower :=
      if c.toNat = 0x3A3 then
        [if letterFollows before && !letterFollows cs then Char.ofNat 0x3C2 else Char.ofNat 0x3C3]
      else lowerChar c
    lower ++ lowerFrom (c :: before) cs

def lower (s : String) : String := String.ofList (lowerFrom [] s.toList)

end PanelQuery.Text
