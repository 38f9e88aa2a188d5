import PanelQuery.Http.Header

/-!
# Media types

The kind of data that a message says it carries: a type, a subtype with an optional suffix after its last plus sign,
and parameters (`MediaType.read?`). Parameters are only checked for their form.
-/

namespace PanelQuery.Http

/-- Where a reader of parameters stands. -/
inductive ParameterState where
  /-- Before a name. -/
  | gap
  | name
  /-- Just after the equals sign. -/
  | equals
  | value
  /-- Just after the opening quote. -/
  | opened
  | quoted
  /-- After the closing quote. -/
  | closed
  deriving DecidableEq, Repr

namespace ParameterState

/-- The next character of the parameters. -/
def step (s : ParameterState) (c : Char) : Option ParameterState :=
  match s with
  | gap => if c == ' ' then some gap else if isTokenChar c then some name else none
  | name => if c == '=' then some equals else if isTokenChar c then some name else none
  | equals => if c == '"' then some opened else if isTokenChar c then some value else none
  | value => if c == ';' then some gap else if isTokenChar c then some value else none
  | opened => if isQuotable c then some quoted else none
  | quoted => if c == '"' then some closed else if isQuotable c then some quoted else none
  | closed => if c == ';' then some gap else if c == ' ' then some closed else none

/-- Whether parameters may end here. -/
def isEnd : ParameterState → Bool
  | gap | equals | value | closed => true
  | name | opened | quoted => false

end ParameterState

/-- Whether a text has the form of parameters. -/
def areParameters (cs : List Char) : Bool := (cs.foldlM ParameterState.step .gap).any ParameterState.isEnd

/-- A media type in lower case. -/
structure MediaType where
  type : String
  subtype : String
  suffix : Option String
  deriving DecidableEq, Repr

namespace MediaType

/-- What precedes and what follows the last plus sign, unless that comes first. -/
def splitSuffix (cs : List Char) : List Char × Option (List Char) :=
  let after := cs.reverse.takeWhile (· != '+')
  let before := cs.take (cs.length - after.length - 1)
  if before.isEmpty then (cs, none) else (before, some after.reverse)

def lowered (cs : List Char) : String := (String.ofList cs).toLower

def read? (text : String) : Option MediaType :=
  let (type, rest) := text.toList.span isTokenChar
  match rest with
  | '/' :: rest =>
    let (subtype, rest) := rest.span isTokenChar
    let (subtype', suffix) := splitSuffix subtype
    let parsed : MediaType := ⟨lowered type, lowered subtype', suffix.map lowered⟩
    match rest with
    | [] => if type.isEmpty then none else some parsed
    | ';' :: rest => if !type.isEmpty && !subtype.isEmpty && areParameters rest then some parsed else none
    | _ => none
  | _ => none

def ofHeader? (value : String) : Option MediaType := if isPlainText value then read? value else none

def isJson (m : MediaType) : Bool := m.type == "application" && (m.subtype == "json" || m.suffix == some "json")

end MediaType
end PanelQuery.Http
