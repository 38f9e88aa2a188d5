import PanelQuery.CommandLine

/-!
# The program

Reads the options off the command line and the environment, and reports the addresses that the service asks, or why it
cannot start.
-/

namespace PanelQuery.Program

/-- What is said when no options can be read. -/
def stopText : CommandLine.Stop → String
  | .help => "Usage: panelquery [OPTIONS] --querier-url <QUERIER_URL>"
  | .version => "panelquery 0.1.0"
  | .unknownArgument => "error: unexpected argument"
  | .missingValue => "error: an option has no value"
  | .unexpectedValue => "error: a value where none is taken"
  | .repeatedOption => "error: an option is given more than once"
  | .invalidValue => "error: an option has an invalid value"
  | .missingOption => "error: --querier-url is required"

/-- Whether the program has done what it was asked for. -/
def isAnswer : CommandLine.Stop → Bool
  | .help | .version => true
  | _ => false

/-- The lines that describe a client. -/
def describe (options : Options) (client : Client) : List String :=
  ["bind " ++ options.bind.text, "querier " ++ client.query.text, "tracing " ++ client.tracing.text,
    "compiler " ++ ((client.compiler.map Url.text).getD "none")]

/-- The lines to print for options, or why the service cannot start with them. -/
def report (options : Options) : Except ServiceError (List String) := do
  let config ← options.config
  return describe options (← Client.connect config.client)

/-- The values of the variables of the environment that settings may come from. -/
def environment : IO (List (String × String)) :=
  CommandLine.Setting.all.foldlM
    (fun found setting => do
      match ← IO.getEnv setting.environmentName with
      | some value => return (setting.environmentName, value) :: found
      | none => return found)
    []

def run (arguments : List String) : IO UInt32 := do
  let found ← environment
  match CommandLine.read (fun name => found.lookup name) ("panelquery" :: arguments) with
  | .error stop =>
    if isAnswer stop then
      IO.println (stopText stop)
      return 0
    else
      IO.eprintln (stopText stop)
      return 2
  | .ok options =>
    match report options with
    | .ok lines =>
      lines.forM IO.println
      return 0
    | .error error =>
      IO.eprintln error.message
      return 1

end PanelQuery.Program

/-- The program. -/
def main (arguments : List String) : IO UInt32 := PanelQuery.Program.run arguments
