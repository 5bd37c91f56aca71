import ChannelLint.Dialect
import ChannelLint.Inspection

/-!
# Configurations

What a project configures: rules, indentation, the suffixes of its files and the paths to ignore.
The built-in rules stand in when a configuration lists none.
-/

namespace ChannelLint

/-- A built-in rule. -/
def builtInRule (pattern id : String) (severity : Severity) (message : String) : Rule where
  pattern := pattern
  extra :=
    [("id", .string id), ("severity", .string severity.name), ("message", .string message)]

/-- The built-in rule on statements that stop the program. -/
def stopRule : Rule :=
  builtInRule "^\\s*stop\\b" "stop-statement" .error "Remove stop statements before release."

/-- The built-in rule on statements that print. -/
def printRule : Rule :=
  builtInRule "^\\s*(?:print\\b|\\?)" "print-statement" .warning "Remove debug print statements."

/-- The built-in rules. -/
def builtInRules : List Rule :=
  [stopRule,
   printRule,
   builtInRule "CreateObject\\(\\s*\"roAssociativeArray\"\\s*\\)" "aa-literal" .info
     "Use an `\x7b\x7d` literal instead of CreateObject(\"roAssociativeArray\").",
   builtInRule "CreateObject\\(\\s*\"roArray\"" "array-literal" .info
     "Use a `[]` literal instead of CreateObject(\"roArray\").",
   builtInRule "\\bhttp://" "insecure-url" .warning "Use https:// URLs."]

/-- A project's configuration. -/
structure Config where
  /-- The rules, in order. -/
  rules : List Rule := builtInRules
  /-- How lines are indented, if that is checked. -/
  indentation : Option IndentConfig := none
  /-- The suffixes of the files to look at. -/
  extensions : List String := defaultExtensions
  /-- The patterns of the paths to ignore. -/
  ignored : List String := []
  deriving Repr

/-- How the files of a project are inspected. -/
def Config.inspector (config : Config) : Inspector :=
  ⟨config.rules, config.indentation⟩

end ChannelLint
