import QueryFilter.Backend
import QueryFilter.CommandLine.Help

/-!
# Command line options

The words of a command line, read from left to right. The first thing that is wrong ends the reading, and so
does a request for help or for the version. A word that stands as the value of an option is looked at when
the next word is no command, or else when that command has been read. Two options may also be given by
variables of the environment, which count when the command line does not give them.
-/

namespace QueryFilter
namespace CommandLine

/-- What a command line asks for. -/
structure Options where
  /-- The filter as an argument. -/
  filter? : Option String
  /-- The path of a file with the filter. -/
  file? : Option String
  /-- The language to write. -/
  backend? : Option Backend
  /-- The path of the configuration file. -/
  config? : Option String
  /-- The spread form of documents is wanted. -/
  pretty : Bool
  /-- More messages are wanted. -/
  verbose : Bool
  /-- The filter to explain. -/
  explained? : Option String
  deriving DecidableEq, Repr

/-- The values of the variables that stand in for options. -/
structure Environment where
  /-- Stands in for the backend. -/
  backend? : Option String
  /-- Stands in for the path of the configuration file. -/
  config? : Option String
  deriving DecidableEq, Repr

/-- An option that takes a value. -/
inductive ValueOption
  | file
  | backend
  | config
  deriving DecidableEq, Repr

/-- Why a command line cannot be used. -/
inductive UsageFault
  | unknownOption (word : String)
  | missingValue (option : ValueOption)
  | emptyValue (option : ValueOption)
  | unexpectedValue (word : String)
  | repeated (name : String)
  | unknownBackend (name : String)
  | unexpectedArgument (word : String)
  | unknownCommand (word : String)
  | missingFilter
  | conflictingInputs
  deriving DecidableEq, Repr

/-- What a usable command line leads to. -/
inductive Invocation
  | help (topic : HelpTopic)
  | version
  | run (options : Options)
  deriving DecidableEq, Repr

namespace ValueOption

/-- The long name of an option. -/
def name : ValueOption → String
  | .file =>
      "file"
  | .backend =>
      "backend"
  | .config =>
      "config"

end ValueOption

namespace UsageFault

/-- The text of a fault. -/
def message : UsageFault → String
  | .unknownOption word =>
      "unexpected argument '" ++ word ++ "' found"
  | .missingValue option =>
      "a value is required for '--" ++ option.name ++ "' but none was supplied"
  | .emptyValue option =>
      "a value is required for '--" ++ option.name ++ "' but none was supplied"
  | .unexpectedValue word =>
      "unexpected value in '" ++ word ++ "'"
  | .repeated name =>
      "the argument '--" ++ name ++ "' cannot be used multiple times"
  | .unknownBackend name =>
      "invalid value '" ++ name ++ "' for '--backend': " ++ Backend.unknownMessage name
  | .unexpectedArgument word =>
      "unexpected argument '" ++ word ++ "' found"
  | .unknownCommand word =>
      "unrecognized subcommand '" ++ word ++ "'"
  | .missingFilter =>
      "the filter to explain was not provided"
  | .conflictingInputs =>
      "the argument '[FILTER]' cannot be used with '--file'"

end UsageFault

namespace Options

/-- The options of an empty command line. -/
def empty : Options :=
  { filter? := none
    file? := none
    backend? := none
    config? := none
    pretty := false
    verbose := false
    explained? := none }

/-- The path that a value names; the empty text names none. -/
def path (option : ValueOption) (value : String) : Except UsageFault String :=
  if value.isEmpty then .error (.emptyValue option) else .ok value

/-- The backend that a value names. -/
def backend (value : String) : Except UsageFault Backend :=
  match Backend.ofName? value with
  | some backend =>
      .ok backend
  | none =>
      .error (.unknownBackend value)

/-- Refuse what has been given before. -/
def once (name : String) (given : Bool) : Except UsageFault Unit :=
  if given then .error (.repeated name) else .ok ()

/-- Give an option its value. -/
def give (options : Options) (option : ValueOption) (value : String) : Except UsageFault Options :=
  match option with
  | .file => do
      once option.name options.file?.isSome
      let path ← path option value
      .ok { options with file? := some path }
  | .backend => do
      once option.name options.backend?.isSome
      let backend ← backend value
      .ok { options with backend? := some backend }
  | .config => do
      once option.name options.config?.isSome
      let path ← path option value
      .ok { options with config? := some path }

/-- Give an option the value that is held for it, if one is. -/
def settle (options : Options) (held? : Option (ValueOption × String)) : Except UsageFault Options :=
  match held? with
  | none =>
      .ok options
  | some (option, value) =>
      options.give option value

/-- Set the flag for the spread form. -/
def givePretty (options : Options) : Except UsageFault Options := do
  once "pretty" options.pretty
  .ok { options with pretty := true }

/-- Set the flag for more messages. -/
def giveVerbose (options : Options) : Except UsageFault Options := do
  once "verbose" options.verbose
  .ok { options with verbose := true }

/-- Take a word as the filter; there is only one. -/
def giveFilter (options : Options) (word : String) : Except UsageFault Options :=
  if options.filter?.isSome then
    .error (.unexpectedArgument word)
  else
    .ok { options with filter? := some word }

/-- Take a word as the filter to explain; there is only one. -/
def giveExplained (options : Options) (word : String) : Except UsageFault Options :=
  if options.explained?.isSome then
    .error (.unexpectedArgument word)
  else
    .ok { options with explained? := some word }

/-- Fill in the variables of the environment, and refuse a filter that is given in two ways. -/
def complete (environment : Environment) (options : Options) : Except UsageFault Invocation := do
  let backend? ←
    match options.backend?, environment.backend? with
    | none, some value =>
        (backend value).map some
    | given, _ =>
        .ok given
  let config? ←
    match options.config?, environment.config? with
    | none, some value =>
        (path .config value).map some
    | given, _ =>
        .ok given
  if options.filter?.isSome && options.file?.isSome then
    .error .conflictingInputs
  else
    .ok (.run { options with backend?, config? })

end Options

/-- What one word of a command line leads to. -/
inductive Progress
  /-- The options as they are now. -/
  | ready (options : Options)
  /-- The next word is the value of an option. -/
  | awaiting (option : ValueOption) (options : Options)
  /-- The command line is decided, whatever follows. -/
  | decided (invocation : Invocation)

namespace Progress

/-- An option with the rest of its word: the value, with or without a sign of equality, if any. -/
def attached (options : Options) (option : ValueOption) (rest : List Char) :
    Except UsageFault Progress :=
  match rest with
  | [] =>
      .ok (.awaiting option options)
  | '=' :: value =>
      (options.give option (String.ofList value)).map .ready
  | value =>
      (options.give option (String.ofList value)).map .ready

/-- A word of one-letter options behind its hyphen. -/
def ofLetters (options : Options) : List Char → Except UsageFault Progress
  | [] =>
      .ok (.ready options)
  | letter :: rest =>
      match letter with
      | 'h' =>
          .ok (.decided (.help .program))
      | 'V' =>
          .ok (.decided .version)
      | 'f' =>
          attached options .file rest
      | 'b' =>
          attached options .backend rest
      | 'p' =>
          match options.givePretty with
          | .ok options =>
              ofLetters options rest
          | .error fault =>
              .error fault
      | 'v' =>
          match options.giveVerbose with
          | .ok options =>
              ofLetters options rest
          | .error fault =>
              .error fault
      | letter =>
          .error (.unknownOption (String.ofList ['-', letter]))

/-- A flag, which takes no value. -/
def ofFlag (word : String) (value? : Option String) (progress : Except UsageFault Progress) :
    Except UsageFault Progress :=
  match value? with
  | none =>
      progress
  | some _ =>
      .error (.unexpectedValue word)

/-- An option with a long name, and its value if a sign of equality gives one. -/
def ofLong (options : Options) (word name : String) (value? : Option String) :
    Except UsageFault Progress :=
  let withValue (option : ValueOption) : Except UsageFault Progress :=
    match value? with
    | none =>
        .ok (.awaiting option options)
    | some value =>
        (options.give option value).map .ready
  if name = "file" then
    withValue .file
  else if name = "backend" then
    withValue .backend
  else if name = "config" then
    withValue .config
  else if name = "pretty" then
    ofFlag word value? (options.givePretty.map .ready)
  else if name = "verbose" then
    ofFlag word value? (options.giveVerbose.map .ready)
  else if name = "help" then
    ofFlag word value? (.ok (.decided (.help .program)))
  else if name = "version" then
    ofFlag word value? (.ok (.decided .version))
  else
    .error (.unknownOption word)

/-- The name and the value on the two sides of a sign of equality. -/
def splitValue (text : List Char) : String × Option String :=
  let name := String.ofList (text.takeWhile (· != '='))
  match text.dropWhile (· != '=') with
  | [] =>
      (name, none)
  | _ :: value =>
      (name, some (String.ofList value))

/-- One word of a command line: options behind hyphens, or the filter. A lone hyphen is no option. -/
def ofWord (options : Options) (word : String) : Except UsageFault Progress :=
  match word.toList with
  | '-' :: '-' :: text =>
      let (name, value?) := splitValue text
      ofLong options word name value?
  | '-' :: letter :: rest =>
      ofLetters options (letter :: rest)
  | _ =>
      (options.giveFilter word).map .ready

end Progress

/-- A word that begins an option. -/
def isOption (word : String) : Bool :=
  match word.toList with
  | '-' :: _ :: _ =>
      true
  | _ =>
      false

/-- A word behind the command to explain that asks for help about it. -/
def asksForHelp (word : String) : Bool :=
  match word.toList with
  | '-' :: 'h' :: _ =>
      true
  | _ =>
      word == "--help"

/-- Read the words behind the command for help: at most the name of one command. -/
def readHelp : List String → Except UsageFault Invocation
  | [] =>
      .ok (.help .program)
  | name :: rest =>
      match HelpTopic.ofCommand? name, rest with
      | some topic, [] =>
          .ok (.help topic)
      | some _, word :: _ =>
          .error (.unknownCommand word)
      | none, _ =>
          .error (.unknownCommand name)

/-- Read words that are all taken as they stand. -/
def readPlain (environment : Environment) (options : Options) :
    List String → Except UsageFault Invocation
  | [] =>
      options.complete environment
  | word :: rest =>
      match options.giveFilter word with
      | .ok options =>
          readPlain environment options rest
      | .error fault =>
          .error fault

/--
Read the words behind the command to explain. The flag tells that all are taken as they stand; a value that
is held from in front of the command is given at the end.
-/
def readExplained (environment : Environment) (held? : Option (ValueOption × String)) (plain : Bool)
    (options : Options) : List String → Except UsageFault Invocation
  | [] =>
      if options.explained?.isSome then
        (options.settle held?).bind (Options.complete environment)
      else
        .error .missingFilter
  | word :: rest =>
      if !plain && word == "--" then
        readExplained environment held? true options rest
      else if !plain && asksForHelp word then
        .ok (.help .explain)
      else if !plain && isOption word then
        .error (.unknownOption word)
      else
        match options.giveExplained word with
        | .ok options =>
            readExplained environment held? plain options rest
        | .error fault =>
            .error fault

/-- Read the words of a command line, where a value may be held for the option in front of them. -/
def readWords (environment : Environment) (held? : Option (ValueOption × String)) (options : Options) :
    List String → Except UsageFault Invocation
  | [] =>
      (options.settle held?).bind (Options.complete environment)
  | word :: rest =>
      if word = "explain" then
        readExplained environment held? false options rest
      else if word = "help" then
        readHelp rest
      else
        match options.settle held? with
        | .error fault =>
            .error fault
        | .ok options =>
            if word = "--" then
              readPlain environment options rest
            else
              match Progress.ofWord options word with
              | .error fault =>
                  .error fault
              | .ok (.decided invocation) =>
                  .ok invocation
              | .ok (.ready options) =>
                  readWords environment none options rest
              | .ok (.awaiting option options) =>
                  match rest with
                  | [] =>
                      .error (.missingValue option)
                  | value :: rest =>
                      if isOption value then
                        .error (.missingValue option)
                      else
                        readWords environment (some (option, value)) options rest

/-- What a command line leads to. -/
def read (environment : Environment) (words : List String) : Except UsageFault Invocation :=
  readWords environment none Options.empty words

end CommandLine
end QueryFilter
