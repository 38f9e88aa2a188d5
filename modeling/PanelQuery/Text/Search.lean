/-!
# Searching and splicing text

Occurrences of one text in another, on lists of characters: `cutAt` splits at the first occurrence of a pattern,
`replaceAll` copies a text with every occurrence replaced, read from left to right without overlap.
-/

namespace PanelQuery.Text

/-- What precedes and what follows the first occurrence of `pattern`. -/
def cutAt (pattern : List Char) : List Char → Option (List Char × List Char)
  | [] => if pattern.isEmpty then some ([], []) else none
  | c :: cs =>
    match pattern.isPrefixOf? (c :: cs) with
    | some rest => some ([], rest)
    | none => (cutAt pattern cs).map fun (before, after) => (c :: before, after)

def occursIn (pattern : List Char) : List Char → Bool
  | [] => pattern.isEmpty
  | c :: cs => pattern.isPrefixOf (c :: cs) || occursIn pattern cs

/-- Whether `pattern` occurs in `text`. -/
def contains (text pattern : String) : Bool := occursIn pattern.toList text.toList

/-- Copies a text with parts of it replaced. Where `part?` recognises a part at the front of what is left, it gives
the replacement and the length of the part; `skip` characters of the part met last are still to be passed over. -/
def splice (part? : List Char → Option (List Char × Nat)) : Nat → List Char → List Char
  | _, [] => []
  | skip + 1, _ :: cs => splice part? skip cs
  | 0, c :: cs =>
    match part? (c :: cs) with
    | some (replacement, length) => replacement ++ splice part? (length - 1) cs
    | none => c :: splice part? 0 cs

/-- Recognises a pattern at the front, to put `replacement` in its place. -/
def occurrence? (pattern replacement cs : List Char) : Option (List Char × Nat) :=
  if pattern.isPrefixOf cs then some (replacement, pattern.length) else none

/-- Replaces every occurrence of the non-empty `pattern`, from left to right and without overlap. -/
def replaceAll (text pattern replacement : String) : String :=
  if pattern.isEmpty then text
  else String.ofList (splice (occurrence? pattern.toList replacement.toList) 0 text.toList)

/-- The pieces of a text between the characters equal to `sep`; there is always at least one. -/
def pieces (sep : Char) : List Char → List (List Char)
  | [] => [[]]
  | c :: cs =>
    match pieces sep cs with
    | [] => [[c]]
    | piece :: rest => if c == sep then [] :: piece :: rest else (c :: piece) :: rest

/-- The text without `start`, which it has to begin with. -/
def dropStart? (text start : String) : Option String :=
  (start.toList.isPrefixOf? text.toList).map String.ofList

/-- The text without `ending`, which it has to end with. -/
def dropEnd? (text ending : String) : Option String :=
  (ending.toList.reverse.isPrefixOf? text.toList.reverse).map fun rest => String.ofList rest.reverse

def startsWith (text start : String) : Bool := start.toList.isPrefixOf text.toList

/-- The texts with `separator` between each two. -/
def joinWith (separator : String) (texts : List String) : String := separator.intercalate texts

end PanelQuery.Text
