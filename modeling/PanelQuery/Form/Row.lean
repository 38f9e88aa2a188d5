import PanelQuery.Form.Scalar
import PanelQuery.Operator

/-!
# Rows

A row is one entry of a clause of the form: a tag or a metric by its key, with the function applied to it and, in a
condition, an operator and a value. A row may have been picked from a row of the select clause (`SelectRef`); the key
that counts is then the one of that row (`Row.realKey`).
-/

namespace PanelQuery

/-- The parameters of a function: a list, or one bare operand. -/
inductive Params where
  | list (items : List Scalar)
  | single (item : Scalar)
  deriving DecidableEq, Repr

namespace Params

def empty : Params := list []

instance : Inhabited Params := ⟨empty⟩

/-- An empty list, or an empty text. -/
def isEmpty : Params → Bool
  | list items => items.isEmpty
  | single item => item.isEmpty

def toList : Params → List Scalar
  | list items => items
  | single item => [item]

end Params

/-- A function applied to the value of another one. -/
structure SubFunction where
  /-- Its name. -/
  func : String
  /-- For arithmetic, the operator. -/
  op : Option String
  params : Option Params
  deriving DecidableEq, Repr

/-- An entry picked from a select box. -/
structure Choice where
  label : Option Scalar
  value : Scalar
  /-- Whether the value names a variable even without a dollar sign. -/
  isVariable : Bool
  deriving DecidableEq, Repr

/-- One value of a condition. -/
inductive ValueItem where
  | choice (c : Choice)
  | literal (s : Scalar)
  deriving DecidableEq, Repr

namespace ValueItem

/-- The value without its wrapping. -/
def value : ValueItem → Scalar
  | choice c => c.value
  | literal s => s

end ValueItem

/-- The value of a condition: several items, or one. -/
inductive RowValue where
  | list (items : List ValueItem)
  | single (item : ValueItem)
  deriving DecidableEq, Repr

namespace RowValue

def items : RowValue → List ValueItem
  | list items => items
  | single item => [item]

/-- An empty list, or one empty text. -/
def isEmpty : RowValue → Bool
  | list items => items.isEmpty
  | single item => item.value.isEmpty

def literal (s : Scalar) : RowValue := single (.literal s)

end RowValue

/-- What the key of a row names. -/
inductive RowKind where
  | tag
  | metric
  deriving DecidableEq, Repr, Inhabited

/-- The end of a relationship that a row describes. -/
inductive Side where
  | source
  | target
  deriving DecidableEq, Repr

/-- The direction of an order. -/
inductive SortOrder where
  | ascending
  | descending
  deriving DecidableEq, Repr

/-- The row of the select clause that another row was picked from. -/
structure SelectRef where
  key : String
  func : String
  params : Params
  subFuncs : List SubFunction
  deriving DecidableEq, Repr

/-- One entry of a clause. -/
structure Row where
  kind : RowKind
  key : String := ""
  func : String := ""
  params : Params := .empty
  op : String := ""
  val : Option RowValue := none
  aliasName : String := ""
  subFuncs : List SubFunction := []
  /-- The function applied before `func`. -/
  preFunc : String := ""
  sort : Option SortOrder := none
  side : Option Side := none
  /-- Whether the tag exists only in conditions, as two columns. -/
  whereOnly : Bool := false
  isResource : Bool := false
  isIp : Bool := false
  fromSelect : Option SelectRef := none
  uuid : Option String := none
  deriving DecidableEq, Repr

namespace Row

/-- A row without a key. -/
def blank (kind : RowKind) : Row := { kind }

def tag (key : String) : Row := { kind := .tag, key }

def isMetric (r : Row) : Bool := r.kind == .metric

/-- The key that the row refers to: that of the select row it was picked from, if that has one. -/
def realKey (r : Row) : String :=
  match r.fromSelect with
  | some ref => if ref.key.isEmpty then r.key else ref.key
  | none => r.key

/-- Whether the row refers to a key at all. -/
def hasKey (r : Row) : Bool := !r.realKey.isEmpty

/-- The operator, unless it is blank. -/
def operator? (r : Row) : Option Operator :=
  let op := Text.trim r.op
  if op.isEmpty then none else some (Operator.read op)

/-- Whether the row has a value that is not empty. -/
def hasValue (r : Row) : Bool := r.val.any fun val => !val.isEmpty

/-- Whether the row sorts from the greatest down. -/
def isDescending (r : Row) : Bool := r.sort == some .descending

/-- The row without its key and all that depends on it. -/
def clearKey (r : Row) : Row :=
  { kind := r.kind, aliasName := r.aliasName, sort := r.sort, uuid := r.uuid }

def clearFunc (r : Row) : Row := { r with func := "", params := .empty, subFuncs := [] }

end Row
end PanelQuery
