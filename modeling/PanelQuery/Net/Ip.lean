import PanelQuery.Number.Decimal
import PanelQuery.Text.Percent

/-!
# Internet addresses

Addresses of 32 bits (`Ipv4`) and of eight groups of 16 bits (`Ipv6`), with their notations. Of an `Ipv6` the
longest run of at least two empty groups is written as two colons; reading admits two colons in the place of at
least one group, and the last two groups as an `Ipv4`.
-/

namespace PanelQuery.Net

/-! ## 32 bits -/

/-- An address of 32 bits. -/
structure Ipv4 where
  bits : UInt32
  deriving DecidableEq, Repr

namespace Ipv4

def octets (a : Ipv4) : List Nat :=
  let n := a.bits.toNat
  [n / 256 / 256 / 256, n / 256 / 256 % 256, n / 256 % 256, n % 256]

def ofNat (n : Nat) : Ipv4 := ⟨UInt32.ofNat n⟩

def ofOctets (a b c d : Nat) : Ipv4 := ofNat (((a * 256 + b) * 256 + c) * 256 + d)

/-- Four decimal numbers with points between them. -/
def text (a : Ipv4) : String := Text.joinWith "." (a.octets.map toString)

/-- A byte in decimal, without needless zeros in front. -/
def octet? (cs : List Char) : Option Nat :=
  if cs.isEmpty || 3 < cs.length || !cs.all Char.isDigit || (cs.head? == some '0' && 1 < cs.length) then none
  else (some (Decimal.digitsValue cs)).filter (· ≤ 255)

/-- The address that four decimal numbers stand for. -/
def read? (cs : List Char) : Option Ipv4 := do
  match ← (Text.pieces '.' cs).mapM octet? with
  | [a, b, c, d] => some (ofOctets a b c d)
  | _ => none

end Ipv4

/-! ## Eight groups -/

/-- An address of eight groups of 16 bits. -/
structure Ipv6 where
  groups : List UInt16
  size_eq : groups.length = 8
  deriving DecidableEq, Repr

namespace Ipv6

/-- The address of these groups, if there are eight. -/
def ofGroups? (groups : List UInt16) : Option Ipv6 := if h : groups.length = 8 then some ⟨groups, h⟩ else none

/-- The number of empty groups at the front. -/
def emptyRun (groups : List UInt16) : Nat := (groups.takeWhile (· == 0)).length

/-- The first of the longest runs of empty groups: where it starts, and its length. -/
def longestRun (groups : List UInt16) : Nat × Nat :=
  (List.range groups.length).foldl
    (fun best start =>
      let length := emptyRun (groups.drop start)
      if best.2 < length then (start, length) else best)
    (0, 0)

def groupText (g : UInt16) : String := String.ofList (Nat.toDigits 16 g.toNat)

/-- Groups with colons between them. -/
def groupsText (groups : List UInt16) : String := Text.joinWith ":" (groups.map groupText)

/-- The groups in hexadecimal. -/
def text (a : Ipv6) : String :=
  let (start, length) := longestRun a.groups
  if length ≤ 1 then groupsText a.groups
  else groupsText (a.groups.take start) ++ "::" ++ groupsText (a.groups.drop (start + length))

/-- The address of 32 bits that an address of the range for such addresses stands for. -/
def mapped? (a : Ipv6) : Option Ipv4 :=
  match a.groups with
  | [0, 0, 0, 0, 0, 0xFFFF, high, low] => some (.ofNat (high.toNat * 65536 + low.toNat))
  | _ => none

/-- The groups in hexadecimal, except that one of 32 bits keeps its own notation. -/
def mixedText (a : Ipv6) : String :=
  match a.mapped? with
  | some v4 => "::ffff:" ++ v4.text
  | none => a.text

/-- A group in hexadecimal, of at most four digits. -/
def group? (cs : List Char) : Option UInt16 :=
  if cs.isEmpty || 4 < cs.length then none
  else (cs.mapM Text.hexDigit?).map fun digits => UInt16.ofNat (digits.foldl (fun n d => 16 * n + d) 0)

/-- The groups of pieces between colons, of which the last may be an address of 32 bits where `mayMix` is set. -/
def groups? (mayMix : Bool) : List (List Char) → Option (List UInt16)
  | [] => some []
  | [piece] =>
    match group? piece with
    | some g => some [g]
    | none =>
      if mayMix then
        (Ipv4.read? piece).map fun v4 => [UInt16.ofNat (v4.bits.toNat / 65536), UInt16.ofNat v4.bits.toNat]
      else none
  | piece :: rest => do return (← group? piece) :: (← groups? mayMix rest)

/-- The groups on one side of two colons. -/
def side? (mayMix : Bool) (cs : List Char) : Option (List UInt16) :=
  if cs.isEmpty then some [] else groups? mayMix (Text.pieces ':' cs)

/-- The address that a text stands for. -/
def read? (cs : List Char) : Option Ipv6 :=
  match Text.cutAt [':', ':'] cs with
  | none => (groups? true (Text.pieces ':' cs)).bind ofGroups?
  | some (before, after) => do
    let head ← side? false before
    let tail ← side? true after
    if 8 ≤ head.length + tail.length then none
    else ofGroups? (head ++ List.replicate (8 - head.length - tail.length) 0 ++ tail)

end Ipv6
end PanelQuery.Net
