import ChannelLint.Severity
import ChannelLint.Text.Quoted

/-!
# Usage errors

What can be wrong with a command line, as causes, and their wording.
-/

namespace ChannelLint.CommandLine

/-- What is wrong with a command line. -/
inductive UsageError where
  /-- There is no such option; some may be similar. -/
  | unknownOption (name : String) (similar : List String)
  /-- An option stands without its value. -/
  | missingValue (name : String)
  /-- A value is given to an option that takes none. -/
  | unexpectedValue (name : String)
  /-- There is no such command. -/
  | unknownCommand (name : String)
  /-- There is no command. -/
  | missingCommand
  /-- There are more arguments than the command takes. -/
  | extraArguments (arguments : List String)
  /-- Nothing stands at a path. -/
  | pathMissing (what path : String)
  /-- A file stands where a directory should. -/
  | pathIsFile (what path : String)
  /-- The output format is unknown. -/
  | unknownFormat
  /-- The severity to fail on is unknown. -/
  | unknownFailOn
  /-- Output is to be both more and less than usual. -/
  | verboseAndQuiet
  deriving DecidableEq, Repr

namespace UsageError

/-- What is appended for similar options. -/
def similarText : List String → String
  | [] => ""
  | [name] => " Did you mean " ++ name ++ "?"
  | names => " (Possible options: " ++ ", ".intercalate names ++ ")"

/-- The wording of a wrong value. -/
def invalidValue (message : String) : String :=
  "Invalid value: " ++ message

/-- The wording of a wrong path. -/
def invalidPath (message : String) : String :=
  "Invalid value for '[PATH]': " ++ message

/-- The wording of a usage error. -/
def message : UsageError → String
  | unknownOption name similar => "No such option: " ++ name ++ similarText similar
  | missingValue name => "Option " ++ Text.quotedString name ++ " requires an argument."
  | unexpectedValue name => "Option " ++ Text.quotedString name ++ " does not take a value."
  | unknownCommand name => "No such command " ++ Text.quotedString name ++ "."
  | missingCommand => "Missing command."
  | extraArguments arguments =>
      "Got unexpected extra argument" ++ (if arguments.length == 1 then "" else "s") ++ " (" ++
        " ".intercalate arguments ++ ")"
  | pathMissing what path =>
      invalidPath (what ++ " " ++ Text.quotedString path ++ " does not exist.")
  | pathIsFile what path => invalidPath (what ++ " " ++ Text.quotedString path ++ " is a file.")
  | unknownFormat => invalidValue "Unsupported format. Use: terminal, json."
  | unknownFailOn =>
      invalidValue ("Unsupported --fail-on value. Use: " ++
        ", ".intercalate (FailOn.choices.map Prod.fst) ++ ".")
  | verboseAndQuiet => invalidValue "Choose at most one: --verbose or --quiet."

end UsageError

end ChannelLint.CommandLine
