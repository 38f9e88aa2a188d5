import PanelQuery.Text.Search

/-!
# Punycode

A notation in ASCII for names with characters beyond it: the ASCII characters come first, and the others
follow as the distances between their insertions, in numbers of base 36 whose digits have thresholds that adapt to
the distances met before. `Punycode.encode` writes it and `Punycode.decode?` reads it.
-/

namespace PanelQuery.Text.Punycode

def digitChar (d : Nat) : Char := Char.ofNat (if d < 26 then 97 + d else 22 + d)

/-- The threshold of the digit at a position. -/
def threshold (position bias : Nat) : Nat :=
  if position ≤ bias then 1 else if bias + 26 ≤ position then 26 else position - bias

theorem threshold_pos (position bias : Nat) : 1 ≤ threshold position bias := by
  unfold threshold
  split
  · omega
  · split <;> omega

theorem threshold_le (position bias : Nat) : threshold position bias ≤ 26 := by
  unfold threshold
  split
  · omega
  · split <;> omega

/-- Divides a distance by 35 until it is at most 455, and counts 36 for each division. -/
def shrink (delta count : Nat) : Nat × Nat :=
  if 455 < delta then shrink (delta / 35) (count + 36) else (delta, count)
termination_by delta

/-- The bias after a distance, of which `points` characters have been placed. -/
def adapt (delta points : Nat) (first : Bool) : Nat :=
  let delta := if first then delta / 700 else delta / 2
  let (delta, count) := shrink (delta + delta / points) 0
  count + 36 * delta / (delta + 38)

/-- The digits of a distance, from a position on. -/
def digits (bias position delta : Nat) : List Char :=
  let t := threshold position bias
  if delta < t then [digitChar delta]
  else digitChar (t + (delta - t) % (36 - t)) :: digits bias (position + 36) ((delta - t) / (36 - t))
termination_by delta
decreasing_by
  have low := threshold_pos position bias
  have high := threshold_le position bias
  calc (delta - threshold position bias) / (36 - threshold position bias)
      ≤ delta - threshold position bias := Nat.div_le_self _ _
    _ < delta := by omega

/-- What has been encoded: the digits so far, the distance since the last insertion, the bias and the number of
characters placed. -/
structure Progress where
  written : List Char
  delta : Nat
  bias : Nat
  placed : Nat

/-- Passes one character of the name while those of code `code` are inserted; `basic` is the number of ASCII ones. -/
def pass (basic code : Nat) (p : Progress) (c : Char) : Progress :=
  if c.toNat < code then { p with delta := p.delta + 1 }
  else if c.toNat = code then
    { written := p.written ++ digits p.bias 36 p.delta
      delta := 0
      bias := adapt p.delta (p.placed + 1) (p.placed == basic)
      placed := p.placed + 1 }
  else p

/-- Inserts the characters of each of the codes, which ascend; `next` is the least code that is still to come. -/
def insertAll (name : List Char) (basic : Nat) : List Nat → Nat → Progress → Progress
  | [], _, p => p
  | code :: codes, next, p =>
    let p := name.foldl (pass basic code) { p with delta := p.delta + (code - next) * (p.placed + 1) }
    insertAll name basic codes (code + 1) { p with delta := p.delta + 1 }

/-- The notation of a name, without a mark in front. -/
def encode (name : List Char) : List Char :=
  let basic := name.filter fun c => c.toNat < 128
  let codes := ((name.filter fun c => 128 ≤ c.toNat).map Char.toNat).mergeSort.eraseDups
  let done := insertAll name basic.length codes 128 ⟨[], 0, 72, basic.length⟩
  basic ++ (if basic.isEmpty then [] else ['-']) ++ done.written

/-! ## Reading -/

def digitValue? (c : Char) : Option Nat :=
  if 'a' ≤ c && c ≤ 'z' then some (c.toNat - 97)
  else if 'A' ≤ c && c ≤ 'Z' then some (c.toNat - 65)
  else if c.isDigit then some (c.toNat - 22)
  else none

/-- The numbers of a reader have to fit into 32 bits. -/
def wordLimit : Nat := 4294967296

/-- What has been read: the name so far, the code and the place behind the last insertion, the bias, and the distance
that is being read, with the position and the weight of its next digit. -/
structure Reading where
  name : List Char
  code : Nat
  place : Nat
  bias : Nat
  distance : Nat
  position : Nat
  weight : Nat

namespace Reading

/-- A reading between two distances. -/
def between (name : List Char) (code place bias : Nat) : Reading :=
  { name, code, place, bias, distance := 0, position := 36, weight := 1 }

/-- Makes the insertion at a distance. The places of the name are gone round once for each code. -/
def insert? (r : Reading) (distance : Nat) : Option Reading :=
  let places := r.name.length + 1
  let code := r.code + (r.place + distance) / places
  let place := (r.place + distance) % places
  if code.isValidChar then
    some (between (r.name.insertIdx place (Char.ofNat code)) code (place + 1) (adapt distance places (r.place == 0)))
  else none

/-- The next digit. -/
def step (r : Reading) (c : Char) : Option Reading := do
  let digit ← digitValue? c
  let t := threshold r.position r.bias
  let distance := r.distance + digit * r.weight
  if wordLimit ≤ r.weight || wordLimit ≤ r.place + distance then none
  else if digit < t then r.insert? distance
  else return { r with distance, position := r.position + 36, weight := r.weight * (36 - t) }

end Reading

/-- The ASCII characters of a notation and the digits that follow them. -/
def splitNotation (cs : List Char) : List Char × List Char :=
  let digits := cs.reverse.takeWhile (· != '-')
  let basic := cs.take (cs.length - digits.length - 1)
  if basic.isEmpty then ([], cs) else (basic, digits.reverse)

/-- The name that a notation stands for. -/
def decode? (cs : List Char) : Option (List Char) := do
  let (basic, digits) := splitNotation cs
  let done ← digits.foldlM Reading.step (.between basic 128 0 72)
  if done.position = 36 then some done.name else none

end PanelQuery.Text.Punycode
