import PanelQuery.Text.CodeTable
import PanelQuery.Text.CompositionTable

/-!
# Composition

One character may be written as several: a letter and marks, or the parts of a syllable. `compose` gives the text in
which as many of them as possible are one character, the composed normal form: characters are taken apart (`expand`),
the marks at one character are put in the order of their classes (`arrange`), and what forms a character is put
together again (`join`).
-/

namespace PanelQuery.Text

/-! ## Data -/

/-- A character that is made of two. -/
structure Pair where
  code : Nat
  first : Nat
  second : Nat

/-- The characters that are made of two, syllables of Hangul apart. -/
def pairs : List Pair :=
  (tableRows pairTable).filterMap fun
    | [code, first, second] => some ⟨code, first, second⟩
    | _ => none

/-- The ranges of combining marks with their classes. -/
def classRanges : List (Nat × Nat × Nat) :=
  (tableRows classTable).filterMap fun
    | group :: range => (rowRange? range).map fun (first, last) => (group, first, last)
    | [] => none

/-- The class of a combining mark; zero for other characters. -/
def combiningClass (n : Nat) : Nat :=
  ((classRanges.find? fun (_, first, last) => first ≤ n && n ≤ last).map Prod.fst).getD 0

/-! ## Hangul -/

/-- The first of the syllables of Hangul. -/
def firstSyllable : Nat := 0xAC00

/-- The last of the syllables of Hangul. -/
def lastSyllable : Nat := 0xD7A3

/-- The first of the 19 leading consonants. -/
def firstLead : Nat := 0x1100

/-- The first of the 21 vowels. -/
def firstVowel : Nat := 0x1161

/-- What the 27 trailing consonants are counted from. -/
def trailBase : Nat := 0x11A7

def syllableParts (n : Nat) : List Nat :=
  let index := n - firstSyllable
  [firstLead + index / 588, firstVowel + index % 588 / 28] ++
    if index % 28 = 0 then [] else [trailBase + index % 28]

/-- The syllable that two parts form: a consonant and a vowel, or a syllable that ends in a vowel and a consonant. -/
def syllable? (a b : Nat) : Option Nat :=
  if firstLead ≤ a && a < firstLead + 19 && firstVowel ≤ b && b < firstVowel + 21 then
    some (firstSyllable + 588 * (a - firstLead) + 28 * (b - firstVowel))
  else if firstSyllable ≤ a && a ≤ lastSyllable && (a - firstSyllable) % 28 == 0 && trailBase < b &&
      b < trailBase + 28 then
    some (a + (b - trailBase))
  else none

/-! ## Normal form -/

/-- The characters that a character is made of. None is made of more than three, so two steps are enough. -/
def expand : (steps : Nat) → Nat → List Nat
  | 0, n => [n]
  | steps + 1, n =>
    if firstSyllable ≤ n && n ≤ lastSyllable then syllableParts n
    else
      match pairs.find? fun pair => pair.code == n with
      | some pair => expand steps pair.first ++ [pair.second]
      | none => [n]

/-- Puts a mark behind those before it whose class is not greater. The text is held last character first. -/
def insertMark (mark : Nat × Nat) : List (Nat × Nat) → List (Nat × Nat)
  | [] => [mark]
  | last :: rest => if mark.2 < last.2 then last :: insertMark mark rest else mark :: last :: rest

/-- Characters with their classes, the marks at one character in the order of their classes. -/
def arrange (codes : List Nat) : List (Nat × Nat) :=
  let place (placed : List (Nat × Nat)) (code : Nat) : List (Nat × Nat) :=
    match combiningClass code with
    | 0 => (code, 0) :: placed
    | group => insertMark (code, group) placed
  (codes.foldl place []).reverse

/-- The character that two characters form. -/
def joined? (a b : Nat) : Option Nat :=
  match syllable? a b with
  | some code => some code
  | none => (pairs.find? fun pair => pair.first == a && pair.second == b).map Pair.code

/-- What has been put together: a text, the character that may still take on marks, and the marks behind it that it
has not taken on, last first. -/
structure Joining where
  done : List Nat
  base : Option Nat
  marks : List (Nat × Nat)

namespace Joining

def empty : Joining := ⟨[], none, []⟩

def codes (j : Joining) : List Nat := j.done ++ j.base.toList ++ (j.marks.reverse.map Prod.fst)

/-- Whether a character is behind a mark that keeps it from the base. -/
def blocks (j : Joining) (group : Nat) : Bool := (j.marks.head?).any fun mark => group ≤ mark.2

def step (j : Joining) (next : Nat × Nat) : Joining :=
  match if j.blocks next.2 then none else j.base.bind fun base => joined? base next.1 with
  | some code => { j with base := some code }
  | none => if next.2 = 0 then ⟨j.codes, some next.1, []⟩ else { j with marks := next :: j.marks }

end Joining

/-- The composed normal form of a text. -/
def compose (cs : List Char) : List Char :=
  let parts := arrange (cs.flatMap fun c => expand 2 c.toNat)
  (parts.foldl Joining.step .empty).codes.map Char.ofNat

end PanelQuery.Text
