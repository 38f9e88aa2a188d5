/-!
# Blank characters

The characters with the Unicode property `White_Space` (`isBlank`), and the two operations on text that depend on
them: cutting blanks at both ends (`trim`) and reading off the words between them (`words`).
-/

namespace PanelQuery.Text

/-- The 25 characters with the Unicode property `White_Space`. -/
def isBlank (c : Char) : Bool :=
  let n := c.toNat
  (9 ≤ n && n ≤ 13) || n == 0x20 || n == 0x85 || n == 0xA0 || n == 0x1680 || (0x2000 ≤ n && n ≤ 0x200A) ||
    n == 0x2028 || n == 0x2029 || n == 0x202F || n == 0x205F || n == 0x3000

/-- Cuts what satisfies `p` at both ends. -/
def trimBy (p : Char → Bool) (cs : List Char) : List Char :=
  ((cs.dropWhile p).reverse.dropWhile p).reverse

/-- Cuts the blanks at both ends. -/
def trim (s : String) : String := String.ofList (trimBy isBlank s.toList)

/-- Cuts the blanks at the front. -/
def trimStart (s : String) : String := String.ofList (s.toList.dropWhile isBlank)

/-- The maximal runs of characters outside `p`; `word` is the run being read, last character first. -/
def runsBy (p : Char → Bool) (word : List Char) : List Char → List (List Char)
  | [] => if word.isEmpty then [] else [word.reverse]
  | c :: cs =>
    if p c then (if word.isEmpty then runsBy p [] cs else word.reverse :: runsBy p [] cs)
    else runsBy p (c :: word) cs

/-- The words of a text: its maximal runs of characters that are not blank. -/
def words (s : String) : List String := (runsBy isBlank [] s.toList).map String.ofList

end PanelQuery.Text
