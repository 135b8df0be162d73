import QueryFilter.CommandLine.Options
import QueryFilter.CommandLine.Report

/-!
# Runs of the program

A run reads the command line, loads the configuration, finds the input and reports on it. The options of the
command line win over the configuration. The decoder of the input is a parameter, for which `run` puts `Json.decode`.
-/

namespace QueryFilter
namespace CommandLine

/-- How a run ends. -/
inductive Outcome
  /-- The command line cannot be used. -/
  | misused (fault : UsageFault)
  /-- The text on standard output when all went well. -/
  | finished (output : String)
  /-- The text on standard output, the fault, and whether it is told in colour. -/
  | failed (output : String) (fault : RunFault) (color : Bool)
  deriving DecidableEq, Repr

namespace Outcome

/-- The exit status of a run. -/
def status : Outcome → Nat
  | .finished _ =>
      0
  | .failed _ _ _ =>
      1
  | .misused _ =>
      2

/-- The text on standard output. -/
def output : Outcome → String
  | .finished output =>
      output
  | .failed output _ _ =>
      output
  | .misused _ =>
      ""

/-- The text on standard error. -/
def errors : Outcome → String
  | .finished _ =>
      ""
  | .failed _ fault color =>
      line (Style.error.paint color "Error:" ++ " " ++ fault.message)
  | .misused fault =>
      line ("error: " ++ fault.message)

/-- How a run ends with a report. -/
def ofReport (config : Config) (report : Report) : Outcome :=
  match report.fault? with
  | none =>
      .finished report.output
  | some fault =>
      .failed report.output fault config.color

end Outcome

/-- The text about the version. -/
def versionText : String :=
  "qfilter 0.3.0\n"

/-- The configuration with the options of the command line put over it. -/
def configured (config : Config) (options : Options) : Config :=
  { config with
    backend := options.backend?.getD config.backend
    pretty := config.pretty || options.pretty }

/-- The variables of the environment that stand in for options. -/
def environmentOf [Monad m] (host : Host m) : m Environment := do
  let backend? ← host.variableOf "QFILTER_BACKEND"
  let config? ← host.variableOf "QFILTER_CONFIG"
  pure { backend?, config? }

/-- Colour is forced by a variable of the environment, which decides when there is no configuration. -/
def isColorForced [Monad m] (host : Host m) : m Bool := do
  match ← host.variableOf "CLICOLOR_FORCE" with
  | some value =>
      pure (value != "0")
  | none =>
      pure false

/-- The text on standard input. -/
def standardInput [Monad m] (host : Host m) : m (Except RunFault String) := do
  match ← host.readInput with
  | .ok text =>
      pure (.ok text)
  | .error fault =>
      pure (.error (.unreadableInput fault))

/-- The input of a run: the argument, the file, or standard input, for which a hyphen may stand. -/
def inputOf [Monad m] (host : Host m) (options : Options) : m (Except RunFault String) :=
  match options.filter?, options.file? with
  | some filter, _ =>
      pure (.ok filter)
  | none, none =>
      standardInput host
  | none, some path => do
      if path = "-" then
        standardInput host
      else
        match ← host.read path with
        | .ok text =>
            pure (.ok text)
        | .error fault =>
            pure (.error (.unreadableFile path fault))

/-- Report on the input under a configuration. -/
def report [Monad m] (decode : Json.Decoder) (host : Host m) (config : Config) (options : Options) : m Report :=
  match options.explained? with
  | some input =>
      pure (explain decode config input)
  | none => do
      match ← inputOf host options with
      | .ok input =>
          pure (render decode config input)
      | .error fault =>
          pure { output := "", fault? := some fault }

/-- Run the program with options. -/
def runWith [Monad m] (decode : Json.Decoder) (host : Host m) (options : Options) : m Outcome := do
  match ← Config.load host options.config? with
  | .error fault =>
      pure (.failed "" (.config fault) (← isColorForced host))
  | .ok loaded =>
      let config := configured loaded options
      pure (Outcome.ofReport config (← report decode host config options))

/-- The text of a help topic in an environment. -/
def helpText (environment : Environment) (topic : HelpTopic) : String :=
  lines (topic.lines environment.backend? environment.config?)

/-- Run the program with a decoder and the words of a command line. -/
def runDecoding [Monad m] (decode : Json.Decoder) (host : Host m) (words : List String) : m Outcome := do
  let environment ← environmentOf host
  match read environment words with
  | .error fault =>
      pure (.misused fault)
  | .ok (.help topic) =>
      pure (.finished (helpText environment topic))
  | .ok .version =>
      pure (.finished versionText)
  | .ok (.run options) =>
      runWith decode host options

/-- Run the program with the words of a command line. -/
def run [Monad m] (host : Host m) (words : List String) : m Outcome :=
  runDecoding Json.decode host words

end CommandLine
end QueryFilter
