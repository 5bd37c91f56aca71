import ChannelLint.Json.Writer
import ChannelLint.Report.Basic

/-!
# JSON reports

A report as a JSON document: what was scanned by which version of the tool, and every warning with
all its fields. There is none if one of these cannot be written.
-/

namespace ChannelLint.Report

/-- The version of the layout of JSON reports. -/
def schemaVersion : Nat := 1

/-- The document of a report on warnings with their shown paths. -/
def document (filesScanned : Int) (warnings : List (String × Warning)) : Value :=
  .table
    [("schema_version", .integer schemaVersion),
     ("tool", .table [("name", .string toolName), ("version", .string toolVersion)]),
     ("files_scanned", .integer filesScanned),
     ("warnings", .array (warnings.map fun (path, warning) => .table (warning.toTable path)))]

/-- The text of a JSON report. -/
def json (cwd : Location) (root : Path) (filesScanned : Int) (warnings : List Warning) :
    Except LintError String := do
  let shown ← withPaths cwd root warnings
  requireWritable (warnings.all Warning.isWritable)
  pure (Json.pretty (document filesScanned shown))

/-- The JSON list of rules, with the keys of every table in order. -/
def rulesJson (rules : List Rule) : Except LintError String := do
  requireWritable (rules.all Rule.isWritable)
  pure (Json.pretty (Json.sortKeys (.array (rules.map fun rule => .table rule.toTable))))

end ChannelLint.Report
