import PanelQuery.Variable.Basic

/-!
# Variables in text

`VarContext.interpolate` copies a text with each reference `$name`, `${name}` or `${name:format}` replaced by the
values of the variable, several separated by commas. The text is read once, from left to right: what is put in is
not read again, and names without a value stay as they are written.
-/

namespace PanelQuery

/-- The characters of a name that is written without braces. -/
def isNameChar (c : Char) : Bool := c.isAlphanum || c == '_'

/-- The name at the front of what follows a dollar sign, and how many characters it takes up there. -/
def leadingName? : List Char → Option (List Char × Nat)
  | '\x7b' :: braced =>
    let inner := braced.takeWhile (· != '\x7d')
    if inner.length < braced.length then some (beforeColon inner, inner.length + 2) else none
  | cs =>
    let name := cs.takeWhile isNameChar
    some (name, name.length)

/-- Recognises a reference to a name with a value at the front of a text. -/
def referencePart? (value? : String → Option String) : List Char → Option (List Char × Nat)
  | '$' :: cs => do
    let (name, length) ← leadingName? cs
    let value ← value? (String.ofList name)
    return (value.toList, length + 1)
  | _ => none

namespace VarContext

/-- The values that a name stands for in a text; the sentinel for all stands for the real options. -/
def values? (ctx : VarContext) (name : String) : Option (List Scalar) :=
  if name.isEmpty then none
  else do
    let declared := ctx.declared? name
    let value ←
      match ctx.binding? name with
      | some bound => some bound.value
      | none => (declared.bind Variable.current).map Current.value
    let values := value.toList
    match declared with
    | some declared =>
      if values.any (· == .text allSentinel) then some (declared.realOptions.map VarOption.value) else some values
    | none => some values

/-- The values that a name stands for, separated by commas. -/
def joined? (ctx : VarContext) (name : String) : Option String :=
  (ctx.values? name).map fun values => Text.joinWith "," (values.map Scalar.shown)

/-- Copies a text with the references replaced by values. -/
def interpolate (ctx : VarContext) (text : String) : String :=
  String.ofList (Text.splice (referencePart? ctx.joined?) 0 text.toList)

end VarContext
end PanelQuery
