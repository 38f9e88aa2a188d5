import PanelQuery.Domain.Ascii
import PanelQuery.Text.Percent
import PanelQuery.Url.Basic

/-!
# Hosts

Reading the host of a URL. Where hosts are domains (`Host.readDomain`), they are decoded and brought into ASCII; a
domain whose last label is a number is an address of 32 bits, whose parts may be decimal, octal or hexadecimal.
Elsewhere (`Host.readPlain`) a host is any text without reserved characters.
-/

namespace PanelQuery.Url

/-! ## Percent encoding -/

def encodeByte (b : UInt8) : List Char :=
  ['%', Text.upperHexDigit (b.toNat / 16), Text.upperHexDigit (b.toNat % 16)]

/-- A character, encoded if it is in the set. -/
def encodeChar (set : Char → Bool) (c : Char) : List Char :=
  if set c then (Text.charBytes c).flatMap encodeByte else [c]

/-- Characters, those in the set encoded. -/
def encode (set : Char → Bool) (cs : List Char) : String := String.ofList (cs.flatMap (encodeChar set))

/-- The characters that are encoded everywhere: controls, and those beyond ASCII. -/
def controlSet (c : Char) : Bool := c.toNat < 32 || 126 < c.toNat

/-! ## Numbers -/

/-- The value of a number with a radix, each of whose digits is below it. -/
def radixValue? (radix : Nat) (cs : List Char) : Option Nat :=
  (cs.mapM fun c => (Text.hexDigit? c).filter (· < radix)).map fun digits =>
    digits.foldl (fun n d => radix * n + d) 0

/-- A part of an address of 32 bits: hexadecimal after `0x`, octal after `0`, or decimal. -/
def addressPart? : List Char → Option Nat
  | [] => none
  | '0' :: 'x' :: cs | '0' :: 'X' :: cs => radixValue? 16 cs
  | '0' :: c :: cs => radixValue? 8 (c :: cs)
  | cs => radixValue? 10 cs

/-- The labels of a domain without an empty last one. -/
def labels (cs : List Char) : List (List Char) :=
  let parts := Text.pieces '.' cs
  if 1 < parts.length && parts.getLast? == some [] then parts.dropLast else parts

/-- Whether a domain ends in a number, so that it has to be an address. -/
def endsInNumber (cs : List Char) : Bool :=
  match (labels cs).getLast? with
  | some last => !last.isEmpty && (last.all Char.isDigit || (addressPart? last).isSome)
  | none => false

/-- The address of 32 bits with these parts: bytes, the last of which takes the place of those that are missing. -/
def addressOf? (parts : List Nat) : Option Net.Ipv4 :=
  match parts.reverse with
  | [] => none
  | last :: front =>
    let front := front.reverse
    if 3 < front.length || front.any (255 < ·) || Nat.pow 256 (4 - front.length) ≤ last then none
    else
      let high := (front.zip [twoTo 24, twoTo 16, twoTo 8]).map fun (part, weight) => part * weight
      some (.ofNat (high.foldl (· + ·) 0 + last))

/-- The address of 32 bits in a domain. -/
def readAddress (cs : List Char) : Except Fault Host :=
  match ((labels cs).mapM addressPart?).bind addressOf? with
  | some address => .ok (.ipv4 address)
  | none => .error .invalidIpv4

/-! ## Hosts -/

/-- The characters that no host may have. -/
def isHostDelimiter (c : Char) : Bool := c.toNat = 0 || "\t\n\r #/:<>?@[\\]^|".toList.contains c

/-- The address of eight groups after an opening bracket. -/
def readBracketed (cs : List Char) : Except Fault Host :=
  match (Text.dropEnd? (String.ofList cs) "]").bind fun inner => Net.Ipv6.read? inner.toList with
  | some address => .ok (.ipv6 address)
  | none => .error .invalidIpv6

namespace Host

/-- A host that is a domain or an address. -/
def readDomain : List Char → Except Fault Host
  | '[' :: cs => readBracketed cs
  | cs =>
    match (Text.percentDecode? (String.ofList cs)).bind Domain.toAscii? with
    | none => .error .invalidDomain
    | some domain =>
      if domain.isEmpty then .error .emptyHost
      else if endsInNumber domain then readAddress domain
      else .ok (.name (String.ofList domain))

/-- A host that is any text. -/
def readPlain : List Char → Except Fault Host
  | '[' :: cs => readBracketed cs
  | cs => if cs.any isHostDelimiter then .error .invalidHost else .ok (.name (encode controlSet cs))

end Host
end PanelQuery.Url
