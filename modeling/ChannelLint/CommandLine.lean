import ChannelLint.CommandLine.Options
import ChannelLint.FileTree
import ChannelLint.Text.Letter

/-!
# Command lines

A command line is a command, `lint` or `rules`, with general options in front and options and a
path of its own behind it. Options and paths are checked in the order in which they are needed:
first how everything is spelled, then the command, then the path.
-/

namespace ChannelLint.CommandLine

/-! ## Options -/

/-- The option that asks for help. -/
def helpOption : OptionSpec := ⟨["--help"], false⟩

/-- The option that asks for the version. -/
def versionOption : OptionSpec := ⟨["--version"], false⟩

/-- The option for more output. -/
def verboseOption : OptionSpec := ⟨["--verbose", "-v"], false⟩

/-- The option for less output. -/
def quietOption : OptionSpec := ⟨["--quiet", "-q"], false⟩

/-- The option that shows progress. -/
def progressOption : OptionSpec := ⟨["--progress"], false⟩

/-- The option that hides progress. -/
def noProgressOption : OptionSpec := ⟨["--no-progress"], false⟩

/-- The option for the output format. -/
def formatOption : OptionSpec := ⟨["--format"], true⟩

/-- The option for the severity to fail on. -/
def failOnOption : OptionSpec := ⟨["--fail-on"], true⟩

/-- The options in front of a command. -/
def generalOptions : List OptionSpec :=
  [versionOption, verboseOption, quietOption, progressOption, noProgressOption, helpOption]

/-! ## Settings -/

/-- The settings for all commands. -/
structure Settings where
  /-- Whether there is more output. -/
  verbose : Bool := false
  /-- Whether there is less output. -/
  quiet : Bool := false
  /-- Whether progress is shown. -/
  progress : Bool := true
  deriving DecidableEq, Repr

/-- Whether progress is shown after the given options; the last one counts. -/
def progressShown (words : Words) : Bool :=
  let marks := words.options.filter fun given =>
    given.name == progressOption.name || given.name == noProgressOption.name
  match marks.getLast? with
  | some mark => mark.name == progressOption.name
  | none => true

/-- The settings of general options. -/
def Settings.ofWords (words : Words) : Settings where
  verbose := words.has verboseOption.name
  quiet := words.has quietOption.name
  progress := progressShown words

/-! ## Commands -/

/-- A command. -/
inductive Command where
  | lint
  | rules
  deriving DecidableEq, Repr

namespace Command

/-- The command of a name. -/
def ofName? (name : String) : Option Command :=
  if name == "lint" then some lint else if name == "rules" then some rules else none

/-- The options behind a command. -/
def options : Command → List OptionSpec
  | lint => [formatOption, failOnOption, helpOption]
  | rules => [formatOption, helpOption]

/-- What the path of a command is called. -/
def pathName : Command → String
  | lint => "Path"
  | rules => "Directory"

/-- Whether the path of a command may be a file. -/
def takesFile : Command → Bool
  | lint => true
  | rules => false

end Command

/-- What a command line asks for first. -/
inductive Request where
  /-- Help. -/
  | help
  /-- The version. -/
  | version
  /-- A command with the words behind it. -/
  | command (settings : Settings) (command : Command) (words : List String)
  deriving DecidableEq, Repr

/-- Whether a name that is no command may be meant as an option. -/
def isOptionLike (name : String) : Bool :=
  match name.toList with
  | [] => false
  | c :: _ => !Text.isAlphanumeric c

/-- What general options ask for before any command: the first of help and version. -/
def firstEager? (words : Words) : Option Request :=
  (words.options.find? fun given =>
      given.name == helpOption.name || given.name == versionOption.name).map fun given =>
    if given.name == helpOption.name then .help else .version

/-- Reads the options in front of the command and the command. -/
def readRequest (args : List String) : Except UsageError Request := do
  if args.isEmpty then return .help
  let words ← readWords generalOptions false none args
  if let some request := firstEager? words then return request
  match words.arguments with
  | [] => throw .missingCommand
  | name :: rest =>
      match Command.ofName? name with
      | some command =>
          let settings := Settings.ofWords words
          if settings.verbose && settings.quiet then throw .verboseAndQuiet
          return .command settings command rest
      | none => if isOptionLike name then return .help else throw (.unknownCommand name)

/-! ## Arguments -/

/-- A command's own options and path. -/
structure Arguments where
  /-- The file or directory. -/
  path : Location
  /-- The output format as it was given. -/
  format : String := "terminal"
  /-- The severity to fail on as it was given. -/
  failOn : String := "error"
  deriving DecidableEq, Repr

/-- What can be wrong with the arguments of a command. -/
inductive ArgumentError where
  /-- The command line is wrong. -/
  | usage (error : UsageError)
  /-- The path holds a null character. -/
  | nullInPath
  deriving DecidableEq, Repr

/-- Checks the path of a command. -/
def checkPath (tree : FileTree) (cwd : Location) (command : Command) (text : String) :
    Except ArgumentError Location :=
  let path := Path.ofString text
  if path.hasNull then .error .nullInPath
  else
    let location := path.resolveFrom cwd
    match tree.get? location with
    | none => .error (.usage (.pathMissing command.pathName text))
    | some found =>
        if found.isDirectory || command.takesFile then .ok location
        else .error (.usage (.pathIsFile command.pathName text))

/-- Reads the words behind a command; there is nothing to do when they ask for help. -/
def readArguments (tree : FileTree) (cwd : Location) (command : Command) (args : List String) :
    Except ArgumentError (Option Arguments) := do
  let words ← (readWords command.options true none args).mapError .usage
  if words.has helpOption.name then return none
  let location ← match words.arguments with
    | [] => pure cwd
    | path :: _ => checkPath tree cwd command path
  if words.arguments.length > 1 then throw (.usage (.extraArguments (words.arguments.drop 1)))
  return some
    { path := location
      format := (words.lastValue? formatOption.name).getD "terminal"
      failOn := (words.lastValue? failOnOption.name).getD "error" }

end ChannelLint.CommandLine
