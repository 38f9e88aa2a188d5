import PanelQuery.Form.Row

/-!
# Template variables

A dashboard declares variables; a row value may refer to one (`reference?`) as `$name`, `${name}` or `${name:format}`.
A variable has a current value, which a request may override by a scoped value, and options to choose from, some of
which are sentinels: all options, no filter, any value.
-/

namespace PanelQuery

/-- One value or several. -/
inductive VarValue where
  | many (values : List Scalar)
  | one (value : Scalar)
  deriving DecidableEq, Repr

namespace VarValue

def empty : VarValue := one .empty

def toList : VarValue → List Scalar
  | many values => values
  | one value => [value]

def first? : VarValue → Option Scalar
  | many values => values.head?
  | one value => some value

end VarValue

/-- The current choice of a variable. -/
structure Current where
  value : VarValue
  /-- What is displayed for the value. -/
  text : VarValue
  deriving DecidableEq, Repr

/-- No choice: the empty text. -/
def Current.empty : Current := ⟨.empty, .empty⟩

/-- One of the options of a variable. -/
structure VarOption where
  value : Scalar
  text : Scalar
  deriving DecidableEq, Repr

/-- A variable of the dashboard. -/
structure Variable where
  name : String
  kind : Option String
  current : Option Current
  options : List VarOption
  /-- For an automatic interval, the number of steps. -/
  autoCount : Option Double
  /-- For an automatic interval, the least step. -/
  autoMin : Option String
  deriving DecidableEq, Repr

/-- A value that a request gives to a variable. -/
structure Binding where
  value : VarValue
  text : Option VarValue
  deriving DecidableEq, Repr

/-- The scoped values of a request, by name. -/
abbrev Bindings := List (String × Binding)

/-- What values are resolved against. -/
structure VarContext where
  declared : List Variable
  bindings : Bindings
  deriving DecidableEq, Repr

/-- The option that stands for all others. -/
def allSentinel : String := "$__all"

/-- The option that switches a condition off. -/
def disabledSentinel : String := "__disabled"

/-- The option that matches anything. -/
def anySentinel : String := "__any"

/-- Whether a value is one of the sentinels. -/
def Scalar.isSentinel (s : Scalar) : Bool :=
  s == text allSentinel || s == text disabledSentinel || s == text anySentinel

/-- The options that are values. -/
def Variable.realOptions (v : Variable) : List VarOption := v.options.filter fun option => !option.value.isSentinel

/-- Whether the value of a variable is free text rather than one of its options. -/
def Variable.isPlainText (v : Variable) : Bool := v.kind == some "textbox" || v.kind == some "constant"

namespace VarContext

def empty : VarContext := ⟨[], []⟩

def declared? (ctx : VarContext) (name : String) : Option Variable :=
  ctx.declared.find? fun v => v.name == name

def binding? (ctx : VarContext) (name : String) : Option Binding := ctx.bindings.lookup name

/-- The first scoped value of that name as a number. -/
def number? (ctx : VarContext) (name : String) : Option Double := do
  let bound ← ctx.binding? name
  match ← bound.value.first? with
  | .number n => some n.toDouble
  | .text s => Decimal.read? s
  | .bool _ => none

end VarContext

/-- The characters in front of a colon. -/
def beforeColon (cs : List Char) : List Char := cs.takeWhile (· != ':')

/-- The name that a whole text refers to: `$name`, `${name}` or `${name:format}`. -/
def reference? (text : String) : Option String :=
  let name : Option (List Char) :=
    match text.toList with
    | '$' :: '\x7b' :: inner =>
      match inner.reverse with
      | '\x7d' :: reversed => some (beforeColon reversed.reverse)
      | _ => none
    | '$' :: name => some name
    | _ => none
  name.bind fun cs => if cs.isEmpty then none else some (String.ofList cs)

/-- The name of the variable that a value item refers to. A choice may be marked as a variable, and is then one by
its text without a dollar sign too. -/
def ValueItem.variableName? (item : ValueItem) : Option String := do
  let text ← item.value.text?
  match reference? text, item with
  | some name, _ => some name
  | none, choice c => if c.isVariable && !text.isEmpty then some text else none
  | none, literal _ => none

end PanelQuery
