import PanelQuery.Domain.MappingTable
import PanelQuery.Text.CodeTable

/-!
# Mapped characters

What each character of a domain stands for (`mapChar?`): capital letters for small ones, forms for what they are
forms of, some characters for nothing, and some have no place in a domain. A character that stands for itself is
called plain.
-/

namespace PanelQuery.Domain

/-- A run of characters from `first` to `last`, each `step` after the one before, that stand for the characters from
`target` on. -/
structure ShiftedRun where
  first : Nat
  last : Nat
  step : Nat
  target : Nat

/-- The run of a row of a table. -/
def ShiftedRun.ofRow? : List Nat → Option ShiftedRun
  | [first, target] => some ⟨first, first, 1, target⟩
  | [first, last, target] => some ⟨first, last, 1, target⟩
  | [first, last, step, target] => some ⟨first, last, step, target⟩
  | _ => none

/-- Whether a run has the character of that code. -/
def ShiftedRun.contains (r : ShiftedRun) (n : Nat) : Bool :=
  r.first ≤ n && n ≤ r.last && (n - r.first) % r.step == 0

/-- The characters that no domain may have. -/
def refusedRanges : List (Nat × Nat) := Text.tableRanges refusedTable

def droppedRanges : List (Nat × Nat) := Text.tableRanges droppedTable

/-- The characters that stand for one other. -/
def shiftedRuns : List ShiftedRun := (Text.tableRows shiftedTable).filterMap ShiftedRun.ofRow?

/-- The characters that stand for several others. -/
def spellings : List (Nat × List Nat) :=
  (Text.tableRows spelledTable).filterMap fun
    | code :: spelling => some (code, spelling)
    | [] => none

/-- The characters that a character stands for, if it may stand in a domain. -/
def mapChar? (c : Char) : Option (List Char) :=
  let n := c.toNat
  if Text.inRanges refusedRanges n then none
  else if Text.inRanges droppedRanges n then some []
  else
    match shiftedRuns.find? fun run => run.contains n with
    | some run => some [Char.ofNat (run.target + (n - run.first))]
    | none =>
      match spellings.lookup n with
      | some spelling => some (spelling.map Char.ofNat)
      | none => some [c]

/-- Whether a character stands for itself. -/
def isPlain (c : Char) : Bool := mapChar? c == some [c]

end PanelQuery.Domain
