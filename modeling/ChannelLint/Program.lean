import ChannelLint.CommandLine
import ChannelLint.Lint
import ChannelLint.Log
import ChannelLint.Report.Json
import ChannelLint.Report.Rules
import ChannelLint.Report.Terminal
import ChannelLint.Workers

/-!
# The program

What a command line does to a file tree: the exit code, the output and the error output. A run of
`lint` fails with code 1 when a warning is grave enough, and any command with code 2 when the
configuration is invalid. How a run is shown does not change its verdict, unless the report cannot
be written.
-/

namespace ChannelLint.Program

open CommandLine (Settings UsageError)

/-- What surrounds a run. -/
structure Surroundings where
  /-- The files. -/
  tree : FileTree
  /-- The current directory. -/
  cwd : Location
  /-- The width of the terminal. -/
  width : Nat := 100
  /-- The configured number of workers. -/
  workers : Option String := none
  /-- The number of processors, if it is known. -/
  processors : Option Int := none
  /-- The order in which the workers take their steps. -/
  schedule : Nat → Nat := fun _ => 0

/-- What a run leaves behind. -/
structure Outcome where
  /-- The exit code. -/
  exitCode : Nat := 0
  /-- The output. -/
  output : String := ""
  /-- The error output. -/
  errors : String := ""
  deriving DecidableEq, Repr

/-- What ends a run without an outcome. -/
inductive Failure where
  /-- The command line is wrong. -/
  | usage (error : UsageError)
  /-- Something else went wrong. -/
  | run (error : LintError)
  deriving DecidableEq, Repr

/-- The exit code of an invalid configuration or command line. -/
def invalidCode : Nat := 2

/-- The exit code when warnings make a run fail. -/
def failedCode : Nat := 1

/-! ## Formats -/

/-- An output format. -/
inductive Format where
  | terminal
  | json
  deriving DecidableEq, Repr

/-- A choice as it is compared: trimmed and in lower case. -/
def normalChoice (text : String) : String :=
  String.ofList (Text.lower (Text.trim text.toList))

/-- The format of a text. -/
def Format.ofText? (text : String) : Option Format :=
  let name := normalChoice text
  if name == "terminal" then some .terminal else if name == "json" then some .json else none

/-- Output lines as a text. -/
def linesText (lines : List (List Char)) : String :=
  String.ofList (lines.flatMap fun line => line ++ ['\n'])

/-! ## Configuration errors -/

/-- The error output about an invalid configuration. -/
def configErrorText [Library] (error : ConfigError) : String :=
  linesText (Terminal.unbroken
    (Terminal.replaceEmoji ("Configuration error: " ++ error.message).toList))

/-- The outcome of a run that ends with an error, after what was logged. -/
def outcomeOfError [Library] (logged : String) : LintError → Except Failure Outcome
  | .config error => .ok ⟨invalidCode, "", logged ++ configErrorText error⟩
  | error => .error (.run error)

/-! ## Linting -/

/-- The number of workers of a run. -/
def workerCount (surroundings : Surroundings) : Int :=
  Workers.count surroundings.workers surroundings.processors none Workers.defaultLimit

/-- A message of a logger. -/
structure Notice where
  /-- The name of the logger. -/
  logger : String
  /-- The message. -/
  text : String
  deriving DecidableEq, Repr

/-- What linting has found. -/
structure Findings where
  /-- The target. -/
  target : Target
  /-- The discovered files. -/
  files : List Location
  /-- What is logged about the discovered files. -/
  notice : Notice
  /-- How inspecting them went. -/
  progress : Lint.Progress
  /-- How far the progress bar has come, if there is one. -/
  advanced : Option Nat := none

/-- The message about the discovered files. -/
def discoveryMessage (files : List Location) : String :=
  "discovered " ++ toString files.length ++ " candidate file(s)"

/-- Lints the project of a location without showing progress. -/
def lintWithoutBar [Library] (surroundings : Surroundings) (scan : Location) :
    Except LintError Findings := do
  let target ← Lint.prepare surroundings.tree surroundings.cwd scan none
  let files := Lint.discover surroundings.tree target
  let message := discoveryMessage files ++ " under " ++ Location.toString target.scan
  let workers := workerCount surroundings
  pure
    { target, files
      notice := ⟨Log.scannerName, message⟩
      progress := Lint.lintScheduled surroundings.schedule surroundings.tree surroundings.cwd target
        files workers }

/-- Lints the project of a location and moves a progress bar on for every file that is done. -/
def lintWithBar [Library] (surroundings : Surroundings) (scan : Location) :
    Except LintError Findings := do
  let target ← Lint.prepare surroundings.tree surroundings.cwd scan none
  let files := Lint.discover surroundings.tree target
  let workers := workerCount surroundings
  let progress := Lint.lintScheduled surroundings.schedule surroundings.tree surroundings.cwd target
    files workers
  pure
    { target, files, progress
      notice := ⟨Log.commandLineName, discoveryMessage files⟩
      advanced := some progress.done.length }

/-- Whether progress is shown. -/
def showsProgress (settings : Settings) (format : Format) : Bool :=
  settings.progress && !settings.quiet && format == .terminal

/-- Lints the project of a location for a report in the given format. -/
def findings [Library] (surroundings : Surroundings) (settings : Settings) (format : Format)
    (scan : Location) : Except LintError Findings :=
  if showsProgress settings format then lintWithBar surroundings scan
  else lintWithoutBar surroundings scan

/-- What is logged in a run. -/
def logText (log : Log.Setup) (found : Findings) : String :=
  log.write found.notice.logger Log.debugLevel found.notice.text ++
    String.join (found.progress.log.map (log.write Log.scannerName Log.debugLevel))

/-- The report on warnings in the given format. -/
def reportText [Library] (surroundings : Surroundings) (settings : Settings) (format : Format)
    (found : Findings) (warnings : List Warning) : Except LintError String :=
  let root := Path.ofLocation found.target.root
  match format with
  | .json =>
      (Report.json surroundings.cwd root found.files.length warnings).map (· ++ "\n")
  | .terminal =>
      (Report.terminal surroundings.tree surroundings.cwd root surroundings.width
        found.files.length (!settings.quiet) warnings).map linesText

/-- The exit code for warnings. -/
def exitCode (failOn : FailOn) (warnings : List Warning) : Nat :=
  if failOn.fails (warnings.map fun warning => warning.rule.severity) then failedCode else 0

/-- Lints and reports in the given format. -/
def lintAs [Library] (surroundings : Surroundings) (settings : Settings) (log : Log.Setup)
    (scan : Location) (format : Format) (failOn : FailOn) : Except Failure Outcome :=
  match findings surroundings settings format scan with
  | .error error => outcomeOfError "" error
  | .ok found =>
      let logged := logText log found
      match found.progress.outcome with
      | .error error => outcomeOfError logged error
      | .ok warnings =>
          match reportText surroundings settings format found warnings with
          | .error error => .error (.run error)
          | .ok text => .ok ⟨exitCode failOn warnings, text, logged⟩

/-- The format and the severity to fail on that texts stand for. -/
def readChoices (format failOn : String) : Except UsageError (Format × FailOn) :=
  match Format.ofText? format, FailOn.ofName? (normalChoice failOn) with
  | none, _ => .error .unknownFormat
  | some _, none => .error .unknownFailOn
  | some format, some failOn => .ok (format, failOn)

/-- The command `lint`. A path that holds a null character is found out after the choices. -/
def lint [Library] (surroundings : Surroundings) (settings : Settings) (log : Log.Setup)
    (path : Path) (format failOn : String) : Except Failure Outcome := do
  let (format, failOn) ← (readChoices format failOn).mapError .usage
  if path.hasNull then throw (.run .nullInPath)
  lintAs surroundings settings log (path.resolveFrom surroundings.cwd) format failOn

/-! ## Listing rules -/

/-- The outcome of a command that only writes. -/
def outputOf : Except LintError String → Except Failure Outcome
  | .ok output => .ok { output }
  | .error error => .error (.run error)

/-- The command `rules`. -/
def rules [Library] (surroundings : Surroundings) (directory : Location) (format : String) :
    Except Failure Outcome :=
  match Lint.prepare surroundings.tree surroundings.cwd directory none with
  | .error error => outcomeOfError "" error
  | .ok target =>
      match Format.ofText? format with
      | none => .error (.usage .unknownFormat)
      | some .json => outputOf ((Report.rulesJson target.config.rules).map (· ++ "\n"))
      | some .terminal =>
          outputOf ((Report.rulesLines surroundings.width target.config).map linesText)

/-! ## Command lines -/

/-- Runs a command with the words behind it. -/
def runCommand [Library] (surroundings : Surroundings) (settings : Settings)
    (command : CommandLine.Command) (words : List String) : Except Failure Outcome :=
  match CommandLine.readArguments surroundings.tree surroundings.cwd command words with
  | .error (.usage error) => .error (.usage error)
  | .error .nullInPath => .error (.run .nullInPath)
  | .ok none => .ok {}
  | .ok (some arguments) =>
      let log := Log.Setup.configure {} settings.verbose settings.quiet
      match command with
      | .lint =>
          lint surroundings settings log (.ofLocation arguments.path) arguments.format
            arguments.failOn
      | .rules => rules surroundings arguments.path arguments.format

/-- Runs a command line. -/
def run [Library] (surroundings : Surroundings) (args : List String) : Except Failure Outcome :=
  match CommandLine.readRequest args with
  | .error error => .error (.usage error)
  | .ok .help => .ok {}
  | .ok .version => .ok { output := Report.toolVersion ++ "\n" }
  | .ok (.command settings command words) => runCommand surroundings settings command words

/-- The outcome of a run in which a wrong command line is an outcome, too. -/
def runToEnd [Library] (surroundings : Surroundings) (args : List String) :
    Except LintError Outcome :=
  match run surroundings args with
  | .ok outcome => .ok outcome
  | .error (.usage error) => .ok ⟨invalidCode, "", "Error: " ++ error.message ++ "\n"⟩
  | .error (.run error) => .error error

/-- Lints a path with the default settings, outside of any command line. -/
def lintPath [Library] (surroundings : Surroundings) (path : Path) (format failOn : String) :
    Except Failure Outcome :=
  lint surroundings {} {} path format failOn

end ChannelLint.Program
