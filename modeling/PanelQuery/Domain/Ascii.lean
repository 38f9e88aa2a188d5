import PanelQuery.Domain.Direction
import PanelQuery.Domain.Label
import PanelQuery.Domain.Mapping
import PanelQuery.Text.Punycode

/-!
# Domains in ASCII

A domain may be written with characters of any script; `toAscii?` gives the form in which it is looked up. Characters
are mapped and composed, and labels beyond ASCII are written in punycode behind the mark `xn--`. A label that is
given in punycode has to stand for one that is mapped and composed already.
-/

namespace PanelQuery.Domain

/-- The mark in front of punycode. -/
def codedMark : List Char := "xn--".toList

def isAscii (c : Char) : Bool := c.toNat < 128

/-- The characters of ASCII that no domain may have. -/
def isDenied (c : Char) : Bool := c.toNat ≤ 32 || c.toNat = 127 || "%#/:<>?@[\\]^|".toList.contains c

/-- A label, as it is written and in ASCII. -/
structure Label where
  written : List Char
  ascii : List Char

/-- The label that punycode stands for. It has characters beyond ASCII, and is not punycode again. -/
def decodeLabel? (code : List Char) : Option (List Char) := do
  if code.isEmpty || code.getLast? == some '-' then none
  let label ← Text.Punycode.decode? code
  if label.all isPlain && Text.compose label == label && !codedMark.isPrefixOf label then some label else none

/-- The label of a mapped and composed text. -/
def readLabel? (cs : List Char) : Option Label := do
  let label : Label ←
    match codedMark.isPrefixOf? cs with
    | some code => if code.all isAscii then (decodeLabel? code).map fun written => ⟨written, cs⟩ else none
    | none => some ⟨cs, if cs.all isAscii then cs else codedMark ++ Text.Punycode.encode cs⟩
  if isLabel label.written && !label.ascii.any isDenied then some label else none

def toAscii? (domain : String) : Option (List Char) := do
  let mapped ← domain.toList.mapM mapChar?
  let labels ← (Text.pieces '.' (Text.compose mapped.flatten)).mapM readLabel?
  if labels.any (hasRightToLeft ·.written) && !labels.all (isDirected ·.written) then none
  else some (['.'].intercalate (labels.map Label.ascii))

end PanelQuery.Domain
