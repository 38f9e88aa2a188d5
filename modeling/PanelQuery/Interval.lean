import PanelQuery.Context

/-!
# Intervals

The width of the time buckets of a query. The form holds a text, which may be a duration such as `5m` (`duration?`), a
variable that holds one, one of the two built-in variables for the width that the panel suggests, or an automatic
interval that divides the range of time into a number of steps. Text that is none of these is passed on as it is.
-/

namespace PanelQuery

/-- The width of the time buckets. -/
inductive Interval where
  | seconds (width : Double)
  /-- A text that names no duration. -/
  | raw (text : String)
  deriving DecidableEq, Repr

namespace Interval

def toScalar : Interval → Scalar
  | seconds width => .ofDouble width
  | raw text => .text text

def label (i : Interval) : String := i.toScalar.shown

/-! ## Durations -/

/-- Reads a name at the front, in any case. -/
def dropName? (name : String) (cs : List Char) : Option (List Char) :=
  if (cs.take name.length).map Char.toLower = name.toList then some (cs.drop name.length) else none

/-- The number at the front of a text, and the rest: digits with optional sign, point and exponent, or one of the
names of numbers without digits. An exponent has to have digits. -/
def leadingNumber? (cs : List Char) : Option (Double × List Char) :=
  let (negative, unsigned) := Decimal.signed cs
  match Decimal.mantissa? unsigned with
  | some (digits, k, rest) =>
    match rest with
    | c :: after =>
      if c == 'e' || c == 'E' then
        (Decimal.exponent? after).map fun (e, rest) => (Double.ofDecimal negative digits (k + e), rest)
      else some (Double.ofDecimal negative digits k, rest)
    | [] => some (Double.ofDecimal negative digits k, [])
  | none =>
    ["nan", "infinity", "inf"].findSome? fun name =>
      match dropName? name cs, Decimal.named? false name with
      | some rest, some x => some (x, rest)
      | _, _ => none

/-- The units and what they come to in seconds. -/
def units : List (String × (Double → Double)) :=
  [("ms", (· / Double.ofInt 1000)), ("s", id), ("m", (· * Double.ofInt 60)), ("h", (· * Double.ofInt 3600)),
    ("d", (· * Double.ofInt 86400)), ("", id)]

/-- The seconds of a whole text: a number and a unit, with blanks around them. A number without unit is seconds. -/
def duration? (text : String) : Option Double := do
  let isGap : Char → Bool := fun c => c == ' ' || c == '\t' || c == '\r' || c == '\n'
  let (value, rest) ← leadingNumber? (text.toList.dropWhile isGap)
  let (convert, rest) ← units.findSome? fun (unit, convert) =>
    (unit.toList.isPrefixOf? rest).map fun rest => (convert, rest)
  if (rest.dropWhile isGap).isEmpty then some (convert value) else none

/-! ## Resolution -/

/-- What marks the value of an automatic interval. -/
def autoMark : String := "$__auto_interval_"

/-- The name of the variable that holds the suggested width in milliseconds. -/
def suggestedName : String := "__interval_ms"

/-- The width of an automatic interval: the range of time divided by the number of steps, and at least the least
step. -/
def automatic (ctx : Context) (declared : Option Variable) (text : String) : Interval :=
  match ctx.range, declared.bind Variable.autoCount with
  | some range, some count =>
    if count.toFloat ≤ Double.zero.toFloat then raw text
    else
      let least := ((declared.bind Variable.autoMin).bind duration?).getD Double.zero
      seconds ((Double.ofInt range.seconds / count).maximum least)
  | _, _ => raw text

/-- The width that a text stands for. -/
def ofText (ctx : Context) (declared : Option Variable) (text : String) : Interval :=
  if Text.contains text autoMark then automatic ctx declared text
  else
    match duration? text with
    | some width => seconds width
    | none => raw text

/-- The width that a variable stands for: the first of its current values. -/
def ofVariable (ctx : Context) (declared : Variable) : Interval :=
  let current := ((declared.current.bind fun current => current.value.first?).map Scalar.shown).getD ""
  match Decimal.read? (Text.trim current) with
  | some width => seconds width
  | none => ofText ctx (some declared) current

/-- The width that the interval of a form stands for; nothing if that is blank. -/
def resolve? (ctx : Context) (text : String) : Option Interval :=
  let raw := Text.trim text
  if raw.isEmpty then none
  else
    let name := (reference? raw).getD raw
    if name == "__interval" || name == suggestedName then
      match ctx.number? suggestedName with
      | some milliseconds => some (seconds (milliseconds / Double.ofInt 1000))
      | none => some (.raw raw)
    else
      match (ctx.declared? raw).or (ctx.declared? name) with
      | some declared => some (ofVariable ctx declared)
      | none => some (ofText ctx none raw)

end Interval
end PanelQuery
