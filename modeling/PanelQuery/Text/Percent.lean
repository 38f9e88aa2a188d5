import PanelQuery.Text.Hex
import PanelQuery.Text.Search

/-!
# Percent encoding

Bytes written as `%` and two hexadecimal digits. `percentBytes` reads the bytes of a text; a percent sign without two
digits stands for itself. `formPairs` reads the fields of a query string.
-/

namespace PanelQuery.Text

def charBytes (c : Char) : List UInt8 := (String.singleton c).toUTF8.toList

def percentBytes : List Char → List UInt8
  | '%' :: a :: b :: cs =>
    match hexDigit? a, hexDigit? b with
    | some high, some low => UInt8.ofNat (16 * high + low) :: percentBytes cs
    | _, _ => charBytes '%' ++ percentBytes (a :: b :: cs)
  | c :: cs => charBytes c ++ percentBytes cs
  | [] => []

/-- The text of bytes, if they are UTF-8. -/
def ofBytes? (bytes : List UInt8) : Option String := String.fromUTF8? ⟨bytes.toArray⟩

/-- The text of a percent-encoded one, if its bytes are UTF-8. -/
def percentDecode? (s : String) : Option String := ofBytes? (percentBytes s.toList)

/-! ## Lossy reading -/

/-- The least and greatest second byte and the number of further bytes after a first byte of a UTF-8 sequence. -/
def sequenceShape? (b : Nat) : Option (Nat × Nat × Nat) :=
  if 0xC2 ≤ b && b ≤ 0xDF then some (0x80, 0xBF, 0)
  else if b = 0xE0 then some (0xA0, 0xBF, 1)
  else if b = 0xED then some (0x80, 0x9F, 1)
  else if 0xE1 ≤ b && b ≤ 0xEF then some (0x80, 0xBF, 1)
  else if b = 0xF0 then some (0x90, 0xBF, 2)
  else if b = 0xF4 then some (0x80, 0x8F, 2)
  else if 0xF1 ≤ b && b ≤ 0xF3 then some (0x80, 0xBF, 2)
  else none

/-- What stands for bytes that are no UTF-8. -/
def replacementChar : Char := Char.ofNat 0xFFFD

/-- Where a reader of UTF-8 stands: after whole characters, or within one, with its bits so far, the range of its next
byte and how many bytes follow that. -/
inductive Utf8State where
  | between
  | within (code low high left : Nat)

/-- The first byte of a character, or one that is none. -/
def startChar (b : Nat) : List Char × Utf8State :=
  if b < 0x80 then ([Char.ofNat b], .between)
  else
    match sequenceShape? b with
    | none => ([replacementChar], .between)
    | some (low, high, left) => ([], .within (b % Nat.pow 2 (5 - left)) low high left)

/-- The next byte: the characters that it ends, last one last, and the state after it. -/
def stepUtf8 : Utf8State → Nat → List Char × Utf8State
  | .between, b => startChar b
  | .within code low high left, b =>
    if low ≤ b && b ≤ high then
      let code := code * 64 + b % 64
      match left with
      | 0 => ([Char.ofNat code], .between)
      | left + 1 => ([], .within code 0x80 0xBF left)
    else
      let (chars, state) := startChar b
      (replacementChar :: chars, state)

/-- The characters of bytes; what is no UTF-8 becomes a replacement character. -/
def decodeLossy : Utf8State → List UInt8 → List Char
  | .between, [] => []
  | .within _ _ _ _, [] => [replacementChar]
  | state, b :: rest =>
    let (chars, state) := stepUtf8 state b.toNat
    chars ++ decodeLossy state rest

/-! ## Query strings -/

/-- The text of a name or value in a query string, where a plus sign is a blank. -/
def formText (cs : List Char) : String :=
  String.ofList (decodeLossy .between (percentBytes (cs.map fun c => if c == '+' then ' ' else c)))

/-- The name and value of a field. -/
def formPair (cs : List Char) : String × String :=
  (formText (cs.takeWhile (· != '=')), formText ((cs.dropWhile (· != '=')).drop 1))

/-- The fields of a query string, in order. -/
def formPairs (query : String) : List (String × String) :=
  ((pieces '&' query.toList).filter fun piece => !piece.isEmpty).map formPair

end PanelQuery.Text
