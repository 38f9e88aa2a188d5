import PanelQuery.Text.Blank
import PanelQuery.Text.Search

/-!
# Comparison operators

The operator of a condition as it is chosen in the form. Twelve operators are known; any other text is kept as it is,
with its words set apart by single blanks (`Operator.read`). The class of an operator (`class?`) decides how several
conditions on one key are joined.
-/

namespace PanelQuery

/-- The operator of a condition. -/
inductive Operator where
  | less
  | atMost
  | greater
  | atLeast
  | equal
  | notEqual
  | isIn
  | notIn
  | like
  | notLike
  | regexp
  | notRegexp
  | other (text : String)
  deriving DecidableEq, Repr

/-- How conditions on one key with operators of a class are joined. -/
inductive OperatorClass where
  /-- One of them has to hold. -/
  | forward
  /-- All of them have to hold: none of several values. -/
  | reverse
  /-- All of them have to hold: the bounds of a range. -/
  | range
  deriving DecidableEq, Repr

namespace Operator

def text : Operator → String
  | less => "<"
  | atMost => "<="
  | greater => ">"
  | atLeast => ">="
  | equal => "="
  | notEqual => "!="
  | isIn => "IN"
  | notIn => "NOT IN"
  | like => "LIKE"
  | notLike => "NOT LIKE"
  | regexp => "REGEXP"
  | notRegexp => "NOT REGEXP"
  | other text => text

/-- The known operator of that text, in upper case. -/
def known? : String → Option Operator
  | "<" => some less
  | "<=" => some atMost
  | ">" => some greater
  | ">=" => some atLeast
  | "=" => some equal
  | "!=" => some notEqual
  | "IN" => some isIn
  | "NOT IN" => some notIn
  | "LIKE" => some like
  | "NOT LIKE" => some notLike
  | "REGEXP" => some regexp
  | "NOT REGEXP" => some notRegexp
  | _ => none

/-- A text in ASCII upper case. -/
def upper (text : String) : String := String.ofList (text.toList.map Char.toUpper)

/-- The operator that a text stands for; case and the width of blanks do not matter to the known ones. -/
def read (raw : String) : Operator :=
  let spaced := Text.joinWith " " (Text.words raw)
  (known? (upper spaced)).getD (other spaced)

/-- Whether the operator is one of the twelve known ones. -/
def isKnown : Operator → Bool
  | other _ => false
  | _ => true

/-- The class of an operator; membership in a list and unknown operators have none. -/
def class? : Operator → Option OperatorClass
  | less | atMost | greater | atLeast => some .range
  | equal | regexp | like => some .forward
  | notEqual | notRegexp | notLike => some .reverse
  | isIn | notIn | other _ => none

/-- Whether the operator negates; unknown text does if it spells `NOT` or an exclamation mark. -/
def isNegated : Operator → Bool
  | notEqual | notIn | notLike | notRegexp => true
  | other text => Text.contains (upper text) "NOT" || Text.contains text "!"
  | _ => false

/-- `LIKE` and its negation. -/
def isLike : Operator → Bool
  | like | notLike => true
  | _ => false

/-- Operators that match the displayed text rather than stored codes. -/
def matchesText : Operator → Bool
  | like | notLike | regexp | notRegexp => true
  | _ => false

/-- Operators that compare with identifiers of resources. -/
def matchesIds : Operator → Bool
  | equal | notEqual | isIn | notIn => true
  | _ => false

end Operator
end PanelQuery
