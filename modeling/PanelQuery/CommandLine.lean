import PanelQuery.Net.Socket
import PanelQuery.Service.Start

/-!
# The command line

The options of the program: `CommandLine.read` reads them off the arguments, and, where an option is not given
there, off the environment. Options have long names and one value each, in the next argument or after an equals
sign. A value is judged when the next option begins, or at the end; an argument that is neither option nor value is
refused at once.
-/

namespace PanelQuery

/-- The options of the program. -/
structure Options where
  querierUrl : String
  compilerUrl : Option String
  tracingUrl : Option String
  token : Option String
  /-- Where requests are accepted. -/
  bind : Net.Socket
  statementCapacity : Nat
  tableCapacity : Nat
  /-- How many seconds other services may take to answer. -/
  requestTimeout : Nat
  deriving Repr

namespace CommandLine

/-- Why a command line gives no options. -/
inductive Stop where
  /-- The help text is asked for. -/
  | help
  /-- The version is asked for. -/
  | version
  | unknownArgument
  /-- An option has no value. -/
  | missingValue
  /-- An argument that has no value is given one. -/
  | unexpectedValue
  | repeatedOption
  | invalidValue
  /-- An option that is needed is not given. -/
  | missingOption
  deriving DecidableEq, Repr

/-- What an option sets. -/
inductive Setting where
  | querierUrl
  | compilerUrl
  | tracingUrl
  | token
  | bind
  | statementCapacity
  | tableCapacity
  | requestTimeout
  deriving DecidableEq, Repr

namespace Setting

def all : List Setting :=
  [querierUrl, compilerUrl, tracingUrl, token, bind, statementCapacity, tableCapacity, requestTimeout]

def name : Setting → String
  | querierUrl => "querier-url"
  | compilerUrl => "compiler-url"
  | tracingUrl => "tracing-url"
  | token => "token"
  | bind => "bind"
  | statementCapacity => "sql-cache-capacity"
  | tableCapacity => "table-cache-capacity"
  | requestTimeout => "request-timeout-secs"

def environmentName : Setting → String
  | querierUrl => "DEEPFLOW_QUERIER_URL"
  | compilerUrl => "DEEPFLOW_COMPILER_URL"
  | tracingUrl => "DEEPFLOW_TRACING_URL"
  | token => "DEEPFLOW_TOKEN"
  | bind => "BIND_ADDR"
  | statementCapacity => "SQL_CACHE_CAPACITY"
  | tableCapacity => "TABLE_CACHE_CAPACITY"
  | requestTimeout => "REQUEST_TIMEOUT_SECS"

def ofName? (name : String) : Option Setting := all.find? fun setting => setting.name == name

end Setting

/-! ## Values -/

/-- The settings made so far. -/
structure Given where
  querierUrl : Option String := none
  compilerUrl : Option String := none
  tracingUrl : Option String := none
  token : Option String := none
  bind : Option Net.Socket := none
  statementCapacity : Option Nat := none
  tableCapacity : Option Nat := none
  requestTimeout : Option Nat := none
  deriving Repr

/-- A natural number of 64 bits, which may have a plus sign. -/
def count? (text : String) : Option Nat :=
  let digits :=
    match text.toList with
    | '+' :: cs => cs
    | cs => cs
  Net.boundedNat? (twoTo 64 - 1) digits

/-- A value that is set for the first time, and can be read. -/
def once (held read : Option α) : Except Stop (Option α) :=
  if held.isSome then .error .repeatedOption
  else if read.isNone then .error .invalidValue
  else .ok read

namespace Given

def set (g : Given) (text : String) : Setting → Except Stop Given
  | .querierUrl => return { g with querierUrl := ← once g.querierUrl (some text) }
  | .compilerUrl => return { g with compilerUrl := ← once g.compilerUrl (some text) }
  | .tracingUrl => return { g with tracingUrl := ← once g.tracingUrl (some text) }
  | .token => return { g with token := ← once g.token (some text) }
  | .bind => return { g with bind := ← once g.bind (Net.Socket.read? text) }
  | .statementCapacity => return { g with statementCapacity := ← once g.statementCapacity (count? text) }
  | .tableCapacity => return { g with tableCapacity := ← once g.tableCapacity (count? text) }
  | .requestTimeout => return { g with requestTimeout := ← once g.requestTimeout (count? text) }

def has (g : Given) : Setting → Bool
  | .querierUrl => g.querierUrl.isSome
  | .compilerUrl => g.compilerUrl.isSome
  | .tracingUrl => g.tracingUrl.isSome
  | .token => g.token.isSome
  | .bind => g.bind.isSome
  | .statementCapacity => g.statementCapacity.isSome
  | .tableCapacity => g.tableCapacity.isSome
  | .requestTimeout => g.requestTimeout.isSome

/-- Sets what is not set, in order, from the environment. -/
def fromEnvironment (environment : String → Option String) (g : Given) : Except Stop Given :=
  Setting.all.foldlM
    (fun g setting =>
      match environment setting.environmentName with
      | some text => if g.has setting then .ok g else g.set text setting
      | none => .ok g)
    g

/-- Port 3200 of every address of the machine. -/
def defaultBind : Net.Socket := .v4 (.ofNat 0) 3200

/-- The options, with defaults for what is not set. -/
def options (g : Given) : Except Stop Options :=
  match g.querierUrl with
  | none => .error .missingOption
  | some querierUrl => .ok {
      querierUrl
      compilerUrl := g.compilerUrl
      tracingUrl := g.tracingUrl
      token := g.token
      bind := g.bind.getD defaultBind
      statementCapacity := g.statementCapacity.getD 1024
      tableCapacity := g.tableCapacity.getD 256
      requestTimeout := g.requestTimeout.getD 300 }

end Given

/-! ## Arguments -/

/-- An argument by its form. -/
inductive Argument where
  /-- Two dashes, after which there are no options. -/
  | escape
  /-- A name after two dashes, and a value after an equals sign. -/
  | long (name : String) (value : Option String)
  /-- A dash and letters, the first of which is given. -/
  | short (letter : Char)
  | plain (text : String)
  deriving DecidableEq, Repr

/-- The form of an argument. -/
def Argument.of (text : String) : Argument :=
  match text.toList with
  | ['-', '-'] => escape
  | '-' :: '-' :: cs =>
    let value :=
      match cs.dropWhile (· != '=') with
      | _ :: value => some (String.ofList value)
      | [] => none
    long (String.ofList (cs.takeWhile (· != '='))) value
  | '-' :: c :: _ => short c
  | _ => plain text

/-- How far the arguments have been read: the settings made, and an option whose value is not yet judged or still to
come. -/
structure Progress where
  given : Given
  pending : Option (Setting × Option String)
  deriving Repr

namespace Progress

/-- Judges the value of the last option. -/
def settle (p : Progress) : Except Stop Given :=
  match p.pending with
  | none => .ok p.given
  | some (_, none) => .error .missingValue
  | some (setting, some text) => p.given.set text setting

/-- Asks for something else than options, once the value of the last option has been judged. -/
def ask (p : Progress) (what : Stop) (value : Option String) : Except Stop Progress :=
  if value.isSome then .error .unexpectedValue else do
    let _ ← p.settle
    throw what

/-- An option, whose value may still have to come. -/
def option (p : Progress) (setting : Setting) (value : Option String) : Except Stop Progress := do
  let given ← p.settle
  match value with
  | some text => return ⟨← given.set text setting, none⟩
  | none => return ⟨given, some (setting, none)⟩

def step (p : Progress) : Argument → Except Stop Progress
  | .escape => .ok p
  | .long "help" value => p.ask .help value
  | .long "version" value => p.ask .version value
  | .long name value =>
    match Setting.ofName? name with
    | some setting => p.option setting value
    | none => .error .unknownArgument
  | .short 'h' => p.ask .help none
  | .short 'V' => p.ask .version none
  | .short _ => .error .unknownArgument
  | .plain text =>
    match p.pending with
    | some (setting, none) => .ok { p with pending := some (setting, some text) }
    | _ => .error .unknownArgument

def run (p : Progress) : List String → Except Stop Given
  | [] => p.settle
  | argument :: rest =>
    match Argument.of argument with
    | .escape => if rest.isEmpty then p.settle else .error .unknownArgument
    | argument => (p.step argument).bind fun next => next.run rest

end Progress

/-- The options of a command line, whose first argument is the name of the program. -/
def read (environment : String → Option String) (arguments : List String) : Except Stop Options := do
  let given ← Progress.run ⟨{}, none⟩ (arguments.drop 1)
  let given ← given.fromEnvironment environment
  given.options

end CommandLine

/-- The configuration of the service that the options ask for; empty addresses count as missing. -/
def Options.config (o : Options) : Except ServiceError ServiceConfig := do
  let maybe (option : String) (raw : Option String) : Except ServiceError (Option Url) :=
    (raw.filter (!·.isEmpty)).mapM (webUrl option)
  let querier ← webUrl "querier-url" o.querierUrl
  let compiler ← maybe "compiler-url" o.compilerUrl
  let tracing ← maybe "tracing-url" o.tracingUrl
  return {
    client := { querier, compiler, tracing, token := o.token }
    statementCapacity := o.statementCapacity
    tableCapacity := o.tableCapacity }

end PanelQuery
