/-!
# Double precision numbers

A number in the binary64 format of IEEE 754, held as its 64 bits, so that equality is decidable and the exact value
of a finite number can be read off: `significand · 2 ^ scale`. `ofRatio` rounds an exact quotient to the nearest
double, ties to even, and `rank` embeds all doubles into the integers in the order of the standard's total order
predicate.
-/

namespace PanelQuery

def twoTo (n : Nat) : Nat := Nat.pow 2 n

def tenTo (n : Nat) : Nat := Nat.pow 10 n

/-- The least integer of 64 bits with a sign. -/
def leastInt64 : Int := -9223372036854775808

/-- The greatest integer of 64 bits with a sign. -/
def greatestInt64 : Int := 9223372036854775807

/-- A binary64 number, by its bits. -/
structure Double where
  /-- Sign, eleven bits of exponent and 52 bits of fraction. -/
  bits : UInt64
  deriving DecidableEq, Repr, Inhabited

namespace Double

/-- The bits below the sign. -/
def magnitude (x : Double) : Nat := x.bits.toNat % twoTo 63

def isNegative (x : Double) : Bool := decide (twoTo 63 ≤ x.bits.toNat)

/-- The biased exponent. -/
def exponentField (x : Double) : Nat := x.magnitude / twoTo 52

/-- The bits after the leading one. -/
def fraction (x : Double) : Nat := x.magnitude % twoTo 52

/-- The magnitude of infinity; above it there are only NaNs. -/
def infinityMagnitude : Nat := 2047 * twoTo 52

/-- Neither infinite nor NaN. -/
def isFinite (x : Double) : Bool := decide (x.magnitude < infinityMagnitude)

def isNaN (x : Double) : Bool := decide (infinityMagnitude < x.magnitude)

/-- A finite number is `± significand · 2 ^ scale`. -/
def significand (x : Double) : Nat := if x.exponentField = 0 then x.fraction else x.fraction + twoTo 52

/-- A finite number is `± significand · 2 ^ scale`. -/
def scale (x : Double) : Int := (max x.exponentField 1 : Nat) - 1075

/-- The double with the given sign and magnitude bits. -/
def ofMagnitude (negative : Bool) (m : Nat) : Double :=
  ⟨UInt64.ofNat (m + if negative then twoTo 63 else 0)⟩

def zero : Double := ofMagnitude false 0

/-- The quotient `n / d` rounded to an integer, a half going to the even neighbour. -/
def roundQuotient (n d : Nat) : Nat :=
  let q := n / d
  let r := n % d
  if 2 * r < d then q else if d < 2 * r then q + 1 else q + q % 2

/-- The magnitude nearest to `num / den`: with `2 ^ e ≤ num / den < 2 ^ (e + 1)`, the value is rounded to a multiple
of `2 ^ (e - 52)`, and never to less than the smallest step `2 ^ (-1074)`. -/
def magnitudeOfRatio (num den : Nat) : Nat :=
  if num = 0 then 0
  else
    let guess : Int := (num.log2 : Int) - den.log2
    let reaches : Bool :=
      if 0 ≤ guess then decide (den * twoTo guess.toNat ≤ num) else decide (den ≤ num * twoTo (-guess).toNat)
    let e : Int := if reaches then guess else guess - 1
    let step : Int := max (e - 52) (-1074)
    let rounded := roundQuotient (num * twoTo (-step).toNat) (den * twoTo step.toNat)
    min ((step + 1074).toNat * twoTo 52 + rounded) infinityMagnitude

/-- The double nearest to `± num / den`, ties to even; what is too large becomes infinite. -/
def ofRatio (negative : Bool) (num den : Nat) : Double := ofMagnitude negative (magnitudeOfRatio num den)

def ofInt (n : Int) : Double := ofRatio (n < 0) n.natAbs 1

/-- The double nearest to `± digits · 10 ^ exponent`. Beyond 400 decimal places to either side of the point the answer
is infinity or zero, whatever the digits. -/
def ofDecimal (negative : Bool) (digits : Nat) (exponent : Int) : Double :=
  let top : Int := exponent + (digits.log2 / 3 + 1 : Nat)
  if digits = 0 || top < -400 then ofMagnitude negative 0
  else if 400 < exponent then ofMagnitude negative infinityMagnitude
  else ofRatio negative (digits * tenTo exponent.toNat) (tenTo (-exponent).toNat)

def toFloat (x : Double) : Float := Float.ofBits x.bits

def ofFloat (x : Float) : Double := ⟨x.toBits⟩

/-- The product, rounded as the standard says. -/
def mul (x y : Double) : Double := ofFloat (x.toFloat * y.toFloat)

/-- The quotient, rounded as the standard says. -/
def div (x y : Double) : Double := ofFloat (x.toFloat / y.toFloat)

/-- The opposite sign. -/
def neg (x : Double) : Double := ofMagnitude (!x.isNegative) x.magnitude

/-- The larger of two numbers; one that is no number is passed over. -/
def maximum (x y : Double) : Double :=
  if x.isNaN then y else if y.isNaN then x else if x.toFloat < y.toFloat then y else x

instance : Mul Double := ⟨mul⟩
instance : Div Double := ⟨div⟩
instance : Neg Double := ⟨neg⟩

/-- Position in the total order: negative numbers count down from `-1`. -/
def rank (x : Double) : Int := if x.isNegative then -1 - (x.magnitude : Int) else x.magnitude

def isIntegral (x : Double) : Bool :=
  x.isFinite && (decide (0 ≤ x.scale) || x.significand % twoTo (-x.scale).toNat == 0)

/-- The integer part of a finite number, toward zero. -/
def truncate (x : Double) : Int :=
  let whole : Nat := x.significand * twoTo x.scale.toNat / twoTo (-x.scale).toNat
  if x.isNegative then -(whole : Int) else whole

/-- The integer part, held within the signed 64-bit integers; no number becomes zero. -/
def toInt64 (x : Double) : Int :=
  if x.isNaN then 0
  else if !x.isFinite then (if x.isNegative then leastInt64 else greatestInt64)
  else max leastInt64 (min x.truncate greatestInt64)

end Double
end PanelQuery
