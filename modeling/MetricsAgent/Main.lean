import MetricsAgent.Agent.Basic
import MetricsAgent.CommandLine.Arguments
import MetricsAgent.Settings.Json

/-!
# Command line

Reads the arguments and the settings that they name, and shows what the agent would run with.
-/

namespace MetricsAgent

/-- The name of the program. -/
def programName : String := "mcac-agent"

/-- How the program is called. -/
def usage : String :=
  "Usage: " ++ programName ++ " --config <VALUE>"
    ++ String.join ((OptionName.all.erase .config).map fun o => " [--" ++ o.text ++ " <VALUE>]")

def ArgumentError.message : ArgumentError → String
  | .help | .version => usage
  | .unknown => "an argument is not known"
  | .noValue => "an option has no value"
  | .badValue => "an option has a value that it does not take"
  | .surplusValue => "a flag takes no value"
  | .repeated => "an option is given twice"
  | .missingConfig => "the option --config is required"

/-- What the agent would run with, for people to read. -/
def describeRun (options : Options) (hostName : String) (settings : Settings) : String :=
  (options.identity hostName).text ++ "\n" ++ settings.value.write

/-- The text of a file, if it can be read. -/
def readSettings (path : String) : IO (Option String) := do
  try
    return some (← IO.FS.readFile path)
  catch _ =>
    return none

/-- Shows the run of some options, or why there is none. -/
def showRun (options : Options) : IO UInt32 := do
  match options.settings (← readSettings options.config) with
  | .error e =>
    IO.eprintln (AgentError.loading e).message
    return 1
  | .ok settings =>
    match settings.validate with
    | .error e =>
      IO.eprintln (AgentError.loading e).message
      return 1
    | .ok () =>
      let hostName := ((← IO.getEnv "HOSTNAME").getD "")
      IO.println (describeRun options hostName settings)
      return 0

end MetricsAgent

open MetricsAgent in
def main (arguments : List String) : IO UInt32 := do
  match Options.ofArguments arguments with
  | .ok options => showRun options
  | .error .help =>
    IO.println usage
    return 0
  | .error .version =>
    IO.println programName
    return 0
  | .error e =>
    IO.eprintln (e.message ++ "\n" ++ usage)
    return 2
