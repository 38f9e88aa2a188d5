import PanelQuery.Number.Shortest

/-!
# Decimal text of doubles

Writing: a `Layout` fixes where positional notation ends and whether a whole number keeps its point; `toText` lays
out the shortest digits accordingly. Two layouts are used: `exchange`, for numbers inside data, and `plain`, which
never uses an exponent. Reading: `read?` accepts the usual decimal notation with optional sign, point and exponent,
and the names of infinity and NaN.
-/

namespace PanelQuery.Decimal

/-- How the digits of a double are laid out. -/
structure Layout where
  /-- The least and greatest decimal exponents of the leading digit that are written positionally; `none` for all. -/
  positional : Option (Int × Int)
  /-- Whether a whole number ends in `.0`. -/
  keepsPoint : Bool
  /-- Whether a positive exponent has a sign. -/
  signsExponent : Bool

/-- Numbers inside data: exponents from `10 ^ 16` upward and below `10 ^ -5`, and always a point or an exponent. -/
def exchange : Layout := ⟨some (-5, 15), true, true⟩

/-- All places written out, and no point on whole numbers. -/
def plain : Layout := ⟨none, false, false⟩

/-- `digits · 10 ^ k` in positional notation. -/
def positionalText (keepsPoint : Bool) (digits : List Char) (k : Int) : String :=
  let whole := digits.length + k
  if 0 ≤ k then
    String.ofList (digits ++ List.replicate k.toNat '0') ++ (if keepsPoint then ".0" else "")
  else if 0 < whole then
    String.ofList (digits.take whole.toNat) ++ "." ++ String.ofList (digits.drop whole.toNat)
  else "0." ++ String.ofList (List.replicate (-whole).toNat '0' ++ digits)

/-- `digits · 10 ^ k` with one digit before the point. -/
def exponentText (signed : Bool) (digits : List Char) (k : Int) : String :=
  let e : Int := k + digits.length - 1
  let mantissa :=
    match digits with
    | d :: r :: rest => String.ofList (d :: '.' :: r :: rest)
    | _ => String.ofList digits
  mantissa ++ "e" ++ (if 0 ≤ e && signed then "+" else "") ++ toString e

/-- The text of a double in the given layout. -/
def toText (layout : Layout) (x : Double) : String :=
  if x.isNaN then "NaN"
  else
    let sign := if x.isNegative then "-" else ""
    if !x.isFinite then sign ++ "inf"
    else
      let (c, k) := x.shortest
      let digits := Nat.toDigits 10 c
      let e : Int := k + digits.length - 1
      match layout.positional with
      | none => sign ++ positionalText layout.keepsPoint digits k
      | some (low, high) =>
        if low ≤ e && e ≤ high then sign ++ positionalText layout.keepsPoint digits k
        else sign ++ exponentText layout.signsExponent digits k

def digitsValue (cs : List Char) : Nat := cs.foldl (fun n c => 10 * n + (c.toNat - 48)) 0

/-- The sign of a number's text, and what follows it. -/
def signed : List Char → Bool × List Char
  | '-' :: cs => (true, cs)
  | '+' :: cs => (false, cs)
  | cs => (false, cs)

/-- The decimal digits at the front of a text, and what follows them. -/
def spanDigits (cs : List Char) : List Char × List Char := (cs.takeWhile Char.isDigit, cs.dropWhile Char.isDigit)

/-- The mantissa at the front of a text: digits with an optional point, at least one digit in all. The answer is the
digits as a number, the exponent that the point stands for, and the rest. -/
def mantissa? (cs : List Char) : Option (Nat × Int × List Char) :=
  let (whole, rest) := spanDigits cs
  let (part, rest) :=
    match rest with
    | '.' :: after => spanDigits after
    | _ => ([], rest)
  if whole.isEmpty && part.isEmpty then none
  else some (digitsValue (whole ++ part), -(part.length : Int), rest)

/-- The exponent after its letter: an optional sign and at least one digit. -/
def exponent? (cs : List Char) : Option (Int × List Char) :=
  let (negative, rest) := signed cs
  let (digits, rest) := spanDigits rest
  if digits.isEmpty then none
  else some (if negative then -(digitsValue digits : Int) else digitsValue digits, rest)

/-- The names of numbers that have no digits, in lower case. -/
def named? (negative : Bool) (name : String) : Option Double :=
  match name with
  | "inf" | "infinity" => some (Double.ofMagnitude negative Double.infinityMagnitude)
  | "nan" => some (Double.ofMagnitude negative (Double.infinityMagnitude + twoTo 51))
  | _ => none

/-- The double that a whole text stands for, rounded to nearest. -/
def read? (text : String) : Option Double :=
  let (negative, cs) := signed text.toList
  match mantissa? cs with
  | none => named? negative (String.ofList (cs.map Char.toLower))
  | some (digits, k, []) => some (Double.ofDecimal negative digits k)
  | some (digits, k, c :: rest) =>
    if c == 'e' || c == 'E' then
      match exponent? rest with
      | some (e, []) => some (Double.ofDecimal negative digits (k + e))
      | _ => none
    else none

/-- The integer that a whole text stands for: an optional sign and at least one digit. -/
def readInt? (text : String) : Option Int :=
  let (negative, cs) := signed text.toList
  let (digits, rest) := spanDigits cs
  if digits.isEmpty || !rest.isEmpty then none
  else some (if negative then -(digitsValue digits : Int) else digitsValue digits)

/-- Whether an integer fits into 64 bits with a sign. -/
def fitsInt64 (n : Int) : Bool := decide (leastInt64 ≤ n) && decide (n ≤ greatestInt64)

end PanelQuery.Decimal
