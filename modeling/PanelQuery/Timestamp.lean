import PanelQuery.Number.Decimal

/-!
# Time stamps

The seconds since 1970 that a text stands for: an integer, or a date and time of day with an offset in the notation of
RFC 3339, such as `2024-01-31T23:59:60.5+01:00` (`Timestamp.read?`). A leap second counts as the second before it, and
parts of a second are dropped.
-/

namespace PanelQuery.Timestamp

/-- A date and a time of day, as far as they are written. -/
structure Civil where
  year : Nat
  month : Nat
  day : Nat
  hour : Nat
  minute : Nat
  second : Nat
  deriving DecidableEq, Repr

def isLeap (year : Nat) : Bool := year % 4 == 0 && (year % 100 != 0 || year % 400 == 0)

def monthDays (year month : Nat) : Nat :=
  if month = 2 then (if isLeap year then 29 else 28)
  else if month = 4 || month = 6 || month = 9 || month = 11 then 30
  else 31

/-- The number of days before the first of a month, counted from the start of the year. -/
def daysBeforeMonth (year month : Nat) : Nat :=
  ((List.range (month - 1)).map fun m => monthDays year (m + 1)).foldl (· + ·) 0

/-- The number of days from the start of the year 0 to the start of a year. -/
def daysBeforeYear (year : Nat) : Nat :=
  if year = 0 then 0 else 365 * year + (year - 1) / 4 - (year - 1) / 100 + (year - 1) / 400 + 1

namespace Civil

/-- Whether there is such a date and time of day; the second may be a leap second. -/
def isValid (c : Civil) : Bool :=
  1 ≤ c.month && c.month ≤ 12 && 1 ≤ c.day && c.day ≤ monthDays c.year c.month && c.hour ≤ 23 && c.minute ≤ 59 &&
    c.second ≤ 60

/-- The seconds since the start of 1970, without an offset. -/
def seconds (c : Civil) : Int :=
  let days : Int := daysBeforeYear c.year + daysBeforeMonth c.year c.month + (c.day - 1 : Nat)
  (days - daysBeforeYear 1970) * 86400 + c.hour * 3600 + c.minute * 60 + (min c.second 59 : Nat)

end Civil

/-- A number of just so many digits, and what follows it. -/
def fixed? (count : Nat) (cs : List Char) : Option (Nat × List Char) :=
  let digits := cs.take count
  if digits.length = count && digits.all Char.isDigit then some (Decimal.digitsValue digits, cs.drop count) else none

/-- What follows a character that has to come next. -/
def after? (allowed : List Char) : List Char → Option (List Char)
  | c :: cs => if allowed.contains c then some cs else none
  | [] => none

/-- Passes over parts of a second. -/
def skipFraction? : List Char → Option (List Char)
  | '.' :: cs =>
    let (digits, rest) := Decimal.spanDigits cs
    if digits.isEmpty then none else some rest
  | cs => some cs

/-- An offset in seconds, which has to be less than a day. -/
def offset? : List Char → Option (Int × List Char)
  | [] => none
  | c :: cs =>
    if c == 'Z' || c == 'z' then some (0, cs)
    else if c == '+' || c == '-' || c == Char.ofNat 0x2212 then do
      let (hours, cs) ← fixed? 2 cs
      let cs ← after? [':'] cs
      let (minutes, cs) ← fixed? 2 cs
      let seconds : Int := hours * 3600 + minutes * 60
      if minutes ≤ 59 && seconds < 86400 then some (if c == '+' then seconds else -seconds, cs) else none
    else none

/-- The seconds of a date and time of day with an offset. -/
def readCivil? (cs : List Char) : Option Int := do
  let (year, cs) ← fixed? 4 cs
  let cs ← after? ['-'] cs
  let (month, cs) ← fixed? 2 cs
  let cs ← after? ['-'] cs
  let (day, cs) ← fixed? 2 cs
  let cs ← after? ['T', 't', ' '] cs
  let (hour, cs) ← fixed? 2 cs
  let cs ← after? [':'] cs
  let (minute, cs) ← fixed? 2 cs
  let cs ← after? [':'] cs
  let (second, cs) ← fixed? 2 cs
  let cs ← skipFraction? cs
  let (offset, cs) ← offset? cs
  let civil : Civil := { year, month, day, hour, minute, second }
  if civil.isValid && cs.isEmpty then some (civil.seconds - offset) else none

/-- The seconds since 1970 that a text stands for, without blanks around it. -/
def read? (text : String) : Option Int :=
  ((Decimal.readInt? text).filter Decimal.fitsInt64).or (readCivil? text.toList)

end PanelQuery.Timestamp
