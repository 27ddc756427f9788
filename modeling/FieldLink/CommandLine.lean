import FieldLink.Text.Similarity

/-!
# The command line

The arguments are an optional path of a configuration, options for the log, and an optional command.
An option takes its value from behind an equals sign or from the next argument; behind two dashes
nothing is an option or a command any more.  `Invocation.ofArguments` is what a list of arguments
asks for, or the reason why it is refused, of which the help and the version are two.
-/

namespace FieldLink

/-- How much is logged. -/
inductive LogLevel where
  | error
  | warn
  | info
  | debug
  | trace
  deriving DecidableEq, Repr

namespace LogLevel

/-- The name of a level. -/
def name : LogLevel → String
  | error => "ERROR"
  | warn => "WARN"
  | info => "INFO"
  | debug => "DEBUG"
  | trace => "TRACE"

/-- The levels, with the one that says least first. -/
def all : List LogLevel := [error, warn, info, debug, trace]

/-- The level that is named in any case, or numbered from one. -/
def ofText? (text : String) : Option LogLevel :=
  let cs := text.toList
  let digits := match cs with
    | '+' :: rest => rest
    | rest => rest
  if digits ≠ [] ∧ digits.all Char.isDigit then
    match Nat.ofDigitChars 10 digits 0 with
    | 0 => none
    | n + 1 => all[n]?
  else all.find? fun level => level.name.toList == cs.map Char.toUpper

end LogLevel

/-- Why arguments are refused. -/
inductive UsageError where
  /-- The help is asked for. -/
  | help
  /-- The version is asked for. -/
  | version
  /-- A command that is made of two words stands with its first word only. -/
  | commandIncomplete
  /-- No command has this name. -/
  | unknownCommand
  /-- No option has this name, or there are too many arguments. -/
  | unknownArgument
  /-- An option is given twice. -/
  | repeatedOption
  /-- An option has no value, or a path is empty. -/
  | missingValue
  /-- A value does not name what it should. -/
  | invalidValue
  /-- A value is given to what takes none. -/
  | excessValue
  deriving DecidableEq, Repr

/-- The commands. -/
inductive Command where
  /-- Print a configuration with some of the fields filled in. -/
  | sampleConfig
  deriving DecidableEq, Repr

/-- What the arguments ask for. -/
structure Invocation where
  /-- The path of the configuration. -/
  config : Option String := none
  logLevel : LogLevel := .info
  /-- The directory that is logged to as well. -/
  logDirectory : Option String := none
  command : Option Command := none
  deriving DecidableEq, Repr

namespace Invocation

/-- The arguments that take a value. -/
inductive Slot where
  | config
  | logLevel
  | logDirectory
  deriving DecidableEq, Repr

/-- The arguments read so far. -/
structure Progress where
  /-- What they ask for. -/
  result : Invocation := { }
  /-- The arguments whose values have been taken over. -/
  filled : List Slot := []
  /-- The last argument, whose value is not taken over yet, and may be still to come. -/
  pending : Option (Slot × Option String) := none
  /-- Whether the path of the configuration has been given. -/
  hasConfig : Bool := false

/-- Puts a value into its slot. -/
def fill (r : Invocation) (value : String) : Slot → Except UsageError Invocation
  | .logLevel =>
    match LogLevel.ofText? value with
    | some level => .ok { r with logLevel := level }
    | none => .error .invalidValue
  | .config => if value = "" then .error .missingValue else .ok { r with config := some value }
  | .logDirectory =>
    if value = "" then .error .missingValue else .ok { r with logDirectory := some value }

namespace Progress

/-- Takes over the value of the last argument. -/
def settle (p : Progress) : Except UsageError Progress :=
  match p.pending with
  | none => .ok p
  | some (_, none) => .error .missingValue
  | some (slot, some value) =>
    if slot ∈ p.filled then .error .repeatedOption
    else
      (p.result.fill value slot).map fun result =>
        { p with result, filled := slot :: p.filled, pending := none }

/-- Whether the next argument is the value of an option. -/
def isWaiting (p : Progress) : Bool := p.pending.any fun (_, value) => value.isNone

/-- Reads an option that takes a value, which may be attached to it. -/
def option (p : Progress) (slot : Slot) : Option String → Except UsageError Progress
  | some value => do
    let p ← p.settle
    { p with pending := some (slot, some value) }.settle
  | none => do
    let p ← p.settle
    pure { p with pending := some (slot, none) }

/-- Reads an option that takes no value and ends the reading. -/
def flag (p : Progress) (reason : UsageError) : Option String → Except UsageError Progress
  | some _ => .error .excessValue
  | none => do
    let _ ← p.settle
    .error reason

end Progress

/-- The kinds of argument, by how they are written. -/
inductive Word where
  /-- Two dashes alone. -/
  | separator
  /-- A name behind two dashes, and what follows an equals sign. -/
  | long (name : String) (value : Option String)
  /-- Letters behind one dash, of which this is the first. -/
  | short (letter : Char)
  /-- Anything else. -/
  | plain

/-- The kind of an argument. -/
def Word.ofArgument (argument : String) : Word :=
  match argument.toList with
  | ['-', '-'] => .separator
  | '-' :: '-' :: cs =>
    let value := match cs.dropWhile (· ≠ '=') with
      | [] => none
      | _ :: v => some (String.ofList v)
    .long (String.ofList (cs.takeWhile (· ≠ '='))) value
  | '-' :: c :: _ => .short c
  | _ => .plain

/-- The words behind the command for help that name a topic. -/
def helpTopics : List (List String) :=
  [[], ["help"], ["examples"], ["examples", "help"], ["examples", "config"]]

/-- What the command for help is refused with, for a topic. -/
def help (topic : List String) : UsageError :=
  if topic ∈ helpTopics then .help else .unknownCommand

/-- Reads an argument that is written as an option, where only the help is one. -/
def onlyHelp : Word → UsageError
  | .long "help" none | .short 'h' => .help
  | .long "help" (some _) => .excessValue
  | _ => .unknownArgument

/-- Reads what follows the command that prints a configuration: nothing. -/
def afterSample : List String → Except UsageError Command
  | [] => .ok .sampleConfig
  | argument :: rest =>
    match Word.ofArgument argument with
    | .separator => if rest = [] then .ok .sampleConfig else .error .unknownArgument
    | .plain => .error .unknownArgument
    | word => .error (onlyHelp word)

/-- Reads the second word of a command. -/
def afterExamples : List String → Except UsageError Command
  | [] => .error .commandIncomplete
  | "config" :: rest => afterSample rest
  | "help" :: topic => .error (help ("examples" :: topic))
  | argument :: rest =>
    match Word.ofArgument argument with
    | .separator =>
      match rest with
      | [] => .error .commandIncomplete
      | next :: _ =>
        .error (if next = "config" ∨ next = "help" then .unknownArgument else .unknownCommand)
    | .plain => .error .unknownCommand
    | word => .error (onlyHelp word)

/-- Reads an argument that is no option and no command: the path of the configuration.  A further
one is refused, and taken for a misspelt command if it is similar to one. -/
def positional (p : Progress) (afterSeparator : Bool) (argument : String) :
    Except UsageError Progress :=
  if !p.hasConfig then do
    let p ← p.settle
    pure { p with pending := some (.config, some argument), hasConfig := true }
  else
    let commands := ["examples", "help"]
    if afterSeparator && commands.contains argument then .error .unknownArgument
    else if commands.any (Text.areSimilar argument) then .error .unknownCommand
    else .error .unknownArgument

/-- Reads an argument that is written as an option. -/
def optional (p : Progress) : Word → Except UsageError Progress
  | .long "log-level" value => p.option .logLevel value
  | .long "log-dir" value => p.option .logDirectory value
  | .long "help" value => p.flag .help value
  | .long "version" value => p.flag .version value
  | .short 'h' => p.flag .help none
  | .short 'V' => p.flag .version none
  | _ => .error .unknownArgument

/-- Reads the arguments behind two dashes. -/
def positionals (p : Progress) : List String → Except UsageError Progress
  | [] => .ok p
  | argument :: rest => do positionals (← positional p true argument) rest

/-- Reads arguments. -/
def arguments (p : Progress) : List String → Except UsageError Invocation
  | [] => do
    let p ← p.settle
    pure p.result
  | argument :: rest =>
    if !p.isWaiting && argument = "help" then .error (help rest)
    else if !p.isWaiting && argument = "examples" then do
      let command ← afterExamples rest
      let p ← p.settle
      pure { p.result with command := some command }
    else
      match Word.ofArgument argument with
      | .separator => do
        let p ← positionals p rest
        let p ← p.settle
        pure p.result
      | .plain =>
        match p.pending with
        | some (slot, none) => arguments { p with pending := some (slot, some argument) } rest
        | _ => do arguments (← positional p false argument) rest
      | word => do arguments (← optional p word) rest

/-- What the arguments ask for. -/
def ofArguments (args : List String) : Except UsageError Invocation := arguments { } args

end Invocation

end FieldLink
