/-!
# Help

The texts that explain how the program is used: one about the program as a whole and one about each of its
commands.
-/

namespace QueryFilter
namespace CommandLine

/-- What a help text is about. -/
inductive HelpTopic
  /-- The program as a whole. -/
  | program
  /-- The command that explains a filter. -/
  | explain
  /-- The command that prints help. -/
  | help
  deriving DecidableEq, Repr

namespace HelpTopic

/-- The topic of a command. -/
def ofCommand? (name : String) : Option HelpTopic :=
  if name = "explain" then
    some .explain
  else if name = "help" then
    some .help
  else
    none

/-- The note that a variable of the environment stands in for an option, with its value. -/
def environmentNote (name : String) (value? : Option String) : String :=
  " [env: " ++ name ++ "=" ++ value?.getD "" ++ "]"

/-- The lines about the program, given the variables that choose the backend and the configuration. -/
def programLines (backend? config? : Option String) : List String :=
  ["Render JSON where/order/limit/skip filters as queries",
    "",
    "Usage: qfilter [OPTIONS] [FILTER] [COMMAND]",
    "",
    "Commands:",
    "  explain  Parse a filter and show its tree and renderings",
    "  help     Print this message or the help of the given subcommand(s)",
    "",
    "Arguments:",
    "  [FILTER]  The filter JSON",
    "",
    "Options:",
    "  -f, --file <FILE>        Read the filter JSON from a file ('-' for stdin)",
    "  -b, --backend <BACKEND>  Output backend (overrides the config file)" ++
      environmentNote "QFILTER_BACKEND" backend?,
    "      --config <CONFIG>    Config file path" ++ environmentNote "QFILTER_CONFIG" config?,
    "  -p, --pretty             Pretty-print JSON output",
    "  -v, --verbose            Verbose output",
    "  -h, --help               Print help",
    "  -V, --version            Print version",
    "",
    "EXAMPLES:",
    "    qfilter '\x7b\"where\": \x7b\"name\": \"astra\"\x7d\x7d'",
    "    qfilter '\x7b\"where\": \x7b\"tag\": \x7b\"in\": [\"a\", \"b\"]\x7d\x7d, \"order\": \"id desc\"\x7d' " ++
      "--backend mongo",
    "    echo '\x7b\"limit\": 5\x7d' | qfilter --file -"]

/-- The lines about the command that explains a filter. -/
def explainLines : List String :=
  ["Parse a filter and show its tree and renderings",
    "",
    "Usage: qfilter explain <FILTER>",
    "",
    "Arguments:",
    "  <FILTER>  The filter JSON",
    "",
    "Options:",
    "  -h, --help  Print help"]

/-- The lines about the command that prints help. -/
def helpLines : List String :=
  ["Print this message or the help of the given subcommand(s)",
    "",
    "Usage: qfilter help [COMMAND]...",
    "",
    "Arguments:",
    "  [COMMAND]...  Print help for the subcommand(s)"]

/-- The lines of a help text. -/
def lines (backend? config? : Option String) : HelpTopic → List String
  | .program =>
      programLines backend? config?
  | .explain =>
      explainLines
  | .help =>
      helpLines

end HelpTopic
end CommandLine
end QueryFilter
