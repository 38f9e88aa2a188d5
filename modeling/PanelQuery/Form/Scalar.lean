import PanelQuery.Json.Decoder

/-!
# Scalars

The simple values that a form holds: truth values, numbers and texts, with their JSON form and their text.
-/

namespace PanelQuery

/-- A truth value, a number or a text. -/
inductive Scalar where
  | bool (b : Bool)
  | number (n : Number)
  | text (s : String)
  deriving DecidableEq, Repr

namespace Scalar

instance : Inhabited Scalar := ⟨text ""⟩

/-- The scalar that stands in where none is given. -/
def empty : Scalar := text ""

def isEmpty : Scalar → Bool
  | text s => s.isEmpty
  | _ => false

def text? : Scalar → Option String
  | text s => some s
  | _ => none

/-- The text that displays a scalar. -/
def shown : Scalar → String
  | bool b => if b then "true" else "false"
  | number n => n.text
  | text s => s

/-- A double as a scalar: whole where it is whole and below `2 ^ 63`, a text where it is not finite. -/
def ofDouble (x : Double) : Scalar :=
  if !x.isFinite then text (Decimal.toText Decimal.plain x)
  else if x.isIntegral && decide (x.truncate.natAbs < twoTo 63) then number (.whole x.truncate)
  else number (.double x)

def toJson : Scalar → Json
  | bool b => .bool b
  | number n => .number n
  | text s => .text s

def ofJson? : Json → Option Scalar
  | .bool b => some (bool b)
  | .number n => some (number n)
  | .text s => some (text s)
  | _ => none

def decoder : Decoder Scalar := .whole ofJson?

end Scalar
end PanelQuery
