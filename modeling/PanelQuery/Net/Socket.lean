import PanelQuery.Net.Ip

/-!
# Socket addresses

An internet address and a port, as in `127.0.0.1:80` or `[::1]:80` (`Socket.read?`). An address of eight groups may
have a zone after a percent sign.
-/

namespace PanelQuery.Net

/-- An internet address and a port. -/
inductive Socket where
  | v4 (address : Ipv4) (port : UInt16)
  | v6 (address : Ipv6) (zone : UInt32) (port : UInt16)
  deriving DecidableEq, Repr

/-- A decimal number up to a limit; zeros in front do not count. -/
def boundedNat? (limit : Nat) (cs : List Char) : Option Nat :=
  if cs.isEmpty || !cs.all Char.isDigit then none else (some (Decimal.digitsValue cs)).filter (· ≤ limit)

def port? (cs : List Char) : Option UInt16 := (boundedNat? 65535 cs).map UInt16.ofNat

namespace Socket

/-- The address with its port. -/
def text : Socket → String
  | v4 address port => address.text ++ ":" ++ toString port.toNat
  | v6 address zone port =>
    let zoneText := if zone = 0 then "" else "%" ++ toString zone.toNat
    "[" ++ address.mixedText ++ zoneText ++ "]:" ++ toString port.toNat

/-- The zone after an address, if there is one. -/
def zone? : List Char → Option UInt32
  | [] => some 0
  | '%' :: cs => (boundedNat? 4294967295 cs).map UInt32.ofNat
  | _ => none

/-- The address in brackets and the port after it. -/
def readBracketed? (cs : List Char) : Option Socket := do
  let (inner, rest) := cs.span (· != ']')
  let (address, zone) := inner.span (· != '%')
  let port ← "]:".toList.isPrefixOf? rest
  return v6 (← Ipv6.read? address) (← zone? zone) (← port? port)

/-- The address of 32 bits and the port after it. -/
def readPlain? (cs : List Char) : Option Socket := do
  let (address, rest) := cs.span (· != ':')
  return v4 (← Ipv4.read? address) (← port? (rest.drop 1))

/-- The address and port that a text stands for. -/
def read? (text : String) : Option Socket :=
  match text.toList with
  | '[' :: cs => readBracketed? cs
  | cs => readPlain? cs

end Socket
end PanelQuery.Net
