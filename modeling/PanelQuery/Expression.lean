import PanelQuery.Form.Codec

/-!
# Expressions

What a query selects, compares and orders by: a column with a function, and functions applied to it in turn.
`Row.compose` builds the expression of a row: the chain of its sub-functions is folded over the base column, each call
taking the expression before it as its first parameter.
-/

namespace PanelQuery

/-- A further parameter of a call. -/
inductive Argument where
  | value (s : Scalar)
  /-- A whole list as one parameter. -/
  | list (items : List Scalar)
  deriving DecidableEq, Repr

/-- An expression of a query. -/
inductive Expr where
  /-- A column, with the function applied to it if there is one. -/
  | column (func key : String) (params : Option Params) (aliasName : Option String)
  /-- A function applied to an expression, with further parameters. -/
  | call (func : String) (operand : Expr) (args : List Argument)
  deriving DecidableEq, Repr

def nonEmpty? (text : String) : Option String := if text.isEmpty then none else some text

/-- The parameters, unless there are none. -/
def Params.nonEmpty? (params : Params) : Option Params := if params.isEmpty then none else some params

namespace SubFunction

/-- The name that a function is called by: arithmetic is called by its operator. -/
def callName (f : SubFunction) : String :=
  if String.ofList (f.func.toList.map Char.toLower) != "math" then f.func
  else
    match f.op.map Text.trim with
    | some "ADD" => "+"
    | some "SUBTRACT" => "-"
    | some "MULTIPLY" => "*"
    | some "DIVIDE" => "/"
    | some op => if op.isEmpty then f.func else op
    | none => f.func

/-- The parameters of a call after the first; the items of a list are parameters of their own only in the innermost
call. -/
def arguments (f : SubFunction) (isFirst : Bool) : List Argument :=
  match f.params with
  | none => []
  | some (.single value) => [.value value]
  | some (.list items) => if isFirst then items.map .value else [.list items]

end SubFunction

namespace Expr

/-- Applies functions in turn, none of which is the innermost. -/
def applyAll (base : Expr) (chain : List SubFunction) : Expr :=
  chain.foldl (fun e f => .call f.callName e (f.arguments false)) base

/-- Applies a chain of functions to an expression. -/
def applyChain (base : Expr) : List SubFunction → Expr
  | [] => base
  | f :: rest => applyAll (.call f.callName base (f.arguments true)) rest

/-- The expression under another name. -/
def named (e : Expr) (aliasName : String) : Expr :=
  if aliasName.isEmpty then e else .call "as" e [.value (.text aliasName)]

end Expr

namespace Row

/-- The functions applied to the base column. With a function before `func`, that one takes its place and `func` is
the first of the chain. -/
def chain (r : Row) : List SubFunction :=
  if r.preFunc.isEmpty || r.func.isEmpty then r.subFuncs
  else { func := r.func, op := none, params := some r.params } :: r.subFuncs

/-- The function and parameters of the base column. -/
def base (r : Row) : String × Option Params :=
  if r.preFunc.isEmpty || r.func.isEmpty then (r.func, r.params.nonEmpty?) else (r.preFunc, none)

/-- The expression of a row under the given name. -/
def composeAs (r : Row) (aliasName : String) : Expr :=
  let (func, params) := r.base
  match r.chain with
  | [] => .column func r.realKey params (nonEmpty? aliasName)
  | chain => ((Expr.column func r.realKey params none).applyChain chain).named aliasName

/-- The expression of a row under its own name. -/
def compose (r : Row) : Expr := r.composeAs r.aliasName

end Row

/-- An entry of the select or group-by part of a query. -/
inductive Selection where
  | key (name : String)
  | expr (e : Expr)
  deriving DecidableEq, Repr

/-- An entry of the order-by part of a query. -/
structure OrderEntry where
  expr : Expr
  /-- Whether the greatest come first; unset where the order is not chosen in a form. -/
  descending : Option Bool
  deriving DecidableEq, Repr

/-! ## JSON -/

def Argument.toJson : Argument → Json
  | value s => s.toJson
  | list items => .array (items.map Scalar.toJson)

namespace Expr

def toFields : Expr → Fields
  | column func key params aliasName =>
    Fields.onlyIf (!func.isEmpty) "func" (.text func) ++ [("key", .text key)] ++
      Fields.optional "params" Params.toJson params ++ Fields.optional "as" .text aliasName
  | call func operand args =>
    Fields.onlyIf (!func.isEmpty) "func" (.text func) ++
      [("params", .array (.object operand.toFields :: args.map Argument.toJson))]

def toJson (e : Expr) : Json := .object e.toFields

end Expr

def Selection.toJson : Selection → Json
  | key name => .text name
  | expr e => e.toJson

def OrderEntry.toJson (o : OrderEntry) : Json :=
  .object (o.expr.toFields ++ Fields.optional "desc" .bool o.descending)

end PanelQuery
