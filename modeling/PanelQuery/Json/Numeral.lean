import PanelQuery.Json.Basic

/-!
# JSON numerals

The form of a numeral is checked one character at a time (`Numeral.Place`), and its value is taken once it has ended
(`Numeral.read?`). A numeral without point and exponent that fits into 64 bits is whole; any other one becomes a
double: at most as many digits as fit into an unsigned 64-bit integer are taken, the rest count as powers of ten,
and the digits are then scaled by one power of ten (`scaled?`). A numeral too large for a double has no value.
-/

namespace PanelQuery.Json.Numeral

/-! ## Form -/

/-- Where a numeral stands after one of its characters. -/
inductive Place where
  /-- After the sign. -/
  | sign
  /-- After a zero in front. -/
  | zero
  /-- After a digit behind a zero in front, where no numeral goes on or ends. -/
  | padded
  /-- In the digits before the point. -/
  | whole
  /-- After the point. -/
  | point
  /-- In the digits after the point. -/
  | part
  /-- After the letter of the exponent. -/
  | mark
  /-- After the sign of the exponent. -/
  | markSign
  /-- In the digits of the exponent. -/
  | exponent
  deriving DecidableEq, Repr

namespace Place

/-- The place after the first character of a numeral. -/
def first? (c : Char) : Option Place :=
  if c == '-' then some sign else if c == '0' then some zero else if c.isDigit then some whole else none

/-- The place after the point or the letter of the exponent. -/
def markAfter? (c : Char) : Option Place :=
  if c == '.' then some point else if c == 'e' || c == 'E' then some mark else none

/-- The place after the next character, if the numeral goes on with it. -/
def next? (p : Place) (c : Char) : Option Place :=
  match p with
  | sign => if c == '-' then none else first? c
  | zero => if c.isDigit then some padded else markAfter? c
  | padded => none
  | whole => if c.isDigit then some whole else markAfter? c
  | point => if c.isDigit then some part else none
  | part => if c.isDigit then some part else (markAfter? c).filter (· == mark)
  | mark => if c == '+' || c == '-' then some markSign else if c.isDigit then some exponent else none
  | markSign | exponent => if c.isDigit then some exponent else none

/-- Whether a numeral may end here. -/
def isEnd : Place → Bool
  | zero | whole | part | exponent => true
  | sign | padded | point | mark | markSign => false

end Place

/-! ## Value -/

/-- The least number that does not fit into 64 bits. -/
def wordLimit : Nat := twoTo 64

/-- Takes digits while the number they form fits into 64 bits. The answer is that number and the digits left over. -/
def takeDigits (n : Nat) : List Char → Nat × List Char
  | [] => (n, [])
  | c :: cs =>
    let next := 10 * n + (c.toNat - 48)
    if wordLimit ≤ next then (n, c :: cs) else takeDigits next cs

/-- Multiplies by `10 ^ exponent`, with one rounding for each power of ten up to 308; a result too large for a
double is refused. -/
def scale? (fuel : Nat) (x : Double) (exponent : Int) : Option Double :=
  match fuel with
  | 0 => some x
  | fuel + 1 =>
    if exponent.natAbs ≤ 308 then
      let power := Double.ofRatio false (tenTo exponent.natAbs) 1
      if 0 ≤ exponent then
        let y := x * power
        if y.isFinite then some y else none
      else some (x / power)
    else if x.magnitude = 0 then some x
    else if 0 ≤ exponent then none
    else scale? fuel (x / Double.ofRatio false (tenTo 308) 1) (exponent + 308)

/-- The double for the digits `n` scaled by `10 ^ exponent`. Four divisions by `10 ^ 308` leave nothing of any
64-bit number, so the scaling ends there. -/
def scaled? (negative : Bool) (n : Nat) (exponent : Int) : Option Double :=
  (scale? 5 (Double.ofInt n) (max exponent (-1500))).map fun x => if negative then -x else x

/-- The digits of a numeral before the point, after it, and its exponent. -/
structure Parts where
  negative : Bool
  whole : List Char
  part : Option (List Char)
  exponent : Option Int

def parts (cs : List Char) : Parts :=
  let (negative, cs) := Decimal.signed cs
  let (whole, rest) := Decimal.spanDigits cs
  let (part, rest) :=
    match rest with
    | '.' :: after => let (digits, rest) := Decimal.spanDigits after; (some digits, rest)
    | _ => (none, rest)
  let exponent :=
    match rest with
    | [] => none
    | _ :: after => (Decimal.exponent? after).map Prod.fst
  { negative, whole, part, exponent }

/-- The whole number of these parts, if there is neither point nor exponent and it fits into 64 bits. Zero with a sign
is not whole. -/
def whole? (p : Parts) : Option Int :=
  let n := Decimal.digitsValue p.whole
  match p.part, p.exponent with
  | none, none =>
    if p.negative then (if 0 < n && n ≤ twoTo 63 then some (-(n : Int)) else none)
    else if n < wordLimit then some n else none
  | _, _ => none

/-- The double of these parts. -/
def double? (p : Parts) : Option Double :=
  let (n, beyond) := takeDigits 0 p.whole
  let (n, places) :=
    match p.part with
    | none => (n, 0)
    | some digits =>
      let (n, left) := takeDigits n digits
      (n, digits.length - left.length)
  scaled? p.negative n ((beyond.length : Int) - places + p.exponent.getD 0)

/-- The number of a numeral, if it is not too large. -/
def read? (cs : List Char) : Option Number :=
  let p := parts cs
  match whole? p with
  | some n => some (.whole n)
  | none => (double? p).map .double

end PanelQuery.Json.Numeral
