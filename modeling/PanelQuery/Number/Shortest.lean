import PanelQuery.Number.Double

/-!
# Shortest decimals

The shortest decimal that reads back as a given double. The reals that round to `m · 2 ^ q` form an interval around
it, whose ends belong to it when `m` is even. Of the decimal grids `10 ^ k · ℕ`, the coarsest with a point in that
interval gives the fewest digits; if a point of a grid lies in the interval, so does one of the two neighbours of the
value on that grid, so `gridPoint?` has to test only these.
-/

namespace PanelQuery.Double

/-- The reals that round to `m · 2 ^ q`, in quarters of the last place: from `4 m - 2` to `4 m + 2`, or from
`4 m - 1` where the doubles below lie twice as dense. -/
structure Interval where
  /-- Four times the significand. -/
  centre : Nat
  /-- The lower end. -/
  low : Nat
  /-- The upper end. -/
  high : Nat
  /-- Whether the two ends round to the number as well. -/
  closed : Bool
  /-- The exponent of the quarter units. -/
  exponent : Int
  deriving Repr

/-- The interval of a finite double other than zero. -/
def Interval.of (x : Double) : Interval where
  centre := 4 * x.significand
  low := 4 * x.significand - (if x.fraction = 0 && decide (1 < x.exponentField) then 1 else 2)
  high := 4 * x.significand + 2
  closed := x.significand % 2 == 0
  exponent := x.scale - 2

/-- Whether the point `c · unit / part` lies in the interval, all in quarter units. -/
def Interval.holds (i : Interval) (unit part c : Nat) : Bool :=
  if i.closed then decide (i.low * part ≤ c * unit) && decide (c * unit ≤ i.high * part)
  else decide (i.low * part < c * unit) && decide (c * unit < i.high * part)

/-- The point of the grid `10 ^ k · ℕ` in the interval that is nearest to its centre; a tie goes to the even one. -/
def Interval.gridPoint? (i : Interval) (k : Int) : Option Nat :=
  let unit := tenTo k.toNat * twoTo (-i.exponent).toNat
  let part := tenTo (-k).toNat * twoTo i.exponent.toNat
  let below := i.centre * part / unit
  let above := below + 1
  match i.holds unit part below, i.holds unit part above with
  | true, false => some below
  | false, true => some above
  | false, false => none
  | true, true =>
    let toBelow := i.centre * part - below * unit
    let toAbove := above * unit - i.centre * part
    if toBelow < toAbove then some below
    else if toAbove < toBelow then some above
    else some (below + below % 2)

/-- The point on the coarsest grid, searched from `10 ^ k` downward through `fuel` grids. -/
def Interval.coarsest (i : Interval) : Nat → Int → Nat × Int
  | 0, k => (i.gridPoint? k |>.getD 0, k)
  | fuel + 1, k =>
    match i.gridPoint? k with
    | some c => (c, k)
    | none => i.coarsest fuel (k - 1)

/-- The digits `c` and exponent `k` of the shortest decimal `c · 10 ^ k` that reads back as `x`. The search begins
above the decimal magnitude of `x`, and seventeen digits always read back. -/
def shortest (x : Double) : Nat × Int :=
  if x.significand = 0 then (0, 0)
  else (Interval.of x).coarsest 24 (((x.significand.log2 : Int) + x.scale + 1) * 1233 / 4096 + 2)

end PanelQuery.Double
