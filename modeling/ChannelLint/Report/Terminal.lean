import ChannelLint.FileTree
import ChannelLint.Report.Basic
import ChannelLint.Terminal.Emoji
import ChannelLint.Terminal.Panel

/-!
# Terminal reports

A report for reading: a header, the warnings under a heading for each file with the lines they are
about, and a summary. Headings come in the order of their texts; under a heading the warnings come
in the order of lines, and those on one line in the order in which they were given.
-/

namespace ChannelLint.Report

/-! ## Sections -/

/-- The warnings of a file under its heading. -/
structure Section where
  /-- The heading: the shown path of the file. -/
  heading : String
  /-- The warnings in the order in which they are shown. -/
  warnings : List Warning
  deriving Repr

/-- The sections of a report on warnings with their shown paths. -/
def sections (warnings : List (String × Warning)) : List Section :=
  let headings := ((warnings.map Prod.fst).eraseDups).mergeSort fun a b => !(b < a)
  headings.map fun heading =>
    let own := (warnings.filter fun entry => entry.1 == heading).map Prod.snd
    ⟨heading, own.mergeSort fun a b => a.line ≤ b.line⟩

/-! ## Summary -/

/-- The number of warnings of a severity. -/
def countOf (severity : Severity) (warnings : List Warning) : Nat :=
  (warnings.filter fun warning => warning.rule.severity == severity.name).length

/-- The summary of a report. -/
def summary (warnings : List Warning) : String :=
  toString warnings.length ++ " problem(s): " ++ toString (countOf .error warnings) ++
    " error(s), " ++ toString (countOf .warning warnings) ++ " warning(s), " ++
    toString (countOf .info warnings) ++ " info"

/-- The line above and below the summary. -/
def summaryRule : String :=
  String.ofList (List.replicate 60 '─')

/-! ## Text -/

/-- The mark of a severity. -/
def severityMark (severity : String) : String :=
  match Severity.ofName? severity with
  | some .error => "✖"
  | some .warning => "⚠"
  | some .info => "ℹ"
  | none => "•"

/-- The name of the rule of a warning. -/
def ruleName (warning : Warning) : String :=
  match warning.rule.id? with
  | some id => if id.isEmpty then "rule" else id
  | none => "rule"

/-- The ordinal of the line of a warning, from one. -/
def lineNumber (warning : Warning) : Int :=
  warning.line + 1

/-- The text of a warning. -/
def warningText (warning : Warning) : String :=
  "  " ++ severityMark warning.rule.severity ++ " " ++ ruleName warning ++ "  (" ++
    toString (lineNumber warning) ++ ")  " ++ warning.rule.message

/-- The line of the file that a warning is about, if the file has it. -/
def snippet? (lines : List (List Char)) (warning : Warning) : Option (List Char) :=
  if warning.line < 0 then none else lines[warning.line.toNat]?

/-- The text of a line of a file after its number. -/
def snippetText (warning : Warning) (line : List Char) : List Char :=
  let number := (toString (lineNumber warning)).toList
  List.replicate (5 + (4 - number.length)) ' ' ++ number ++ [' ', '│', ' '] ++ line

/-- The lines of the file under a heading; a file that cannot be read has none. -/
def fileLines (tree : FileTree) (cwd : Location) (root : Path) (heading : String) :
    List (List Char) :=
  match tree.read cwd (root.join (.ofString heading)) with
  | .ok bytes => Text.splitAtChar '\n' (Text.unifyNewlines (Text.decodeLossy bytes))
  | .error _ => []

/-! ## Lines -/

/-- The output lines of a warning. -/
def warningLines [Library] (width : Nat) (lines : List (List Char)) (warning : Warning) :
    List (List Char) :=
  Terminal.printed width (warningText warning).toList ++
    match snippet? lines warning with
    | some line =>
        Terminal.printed width (Terminal.replaceEmoji (snippetText warning line))
    | none => []

/-- The output lines of a section. -/
def sectionLines [Library] (tree : FileTree) (cwd : Location) (root : Path) (width : Nat)
    (part : Section) : List (List Char) :=
  let lines := fileLines tree cwd root part.heading
  Terminal.printed width part.heading.toList ++
    part.warnings.flatMap (warningLines width lines) ++ [[]]

/-- The output lines of the header. -/
def headerLines (width : Nat) (filesScanned : Int) : List (List Char) :=
  Terminal.panel width (toolName ++ " v" ++ toolVersion).toList
    ("Scanned " ++ toString filesScanned ++ " files").toList

/-- The output lines of the summary. -/
def summaryLines (width : Nat) (warnings : List Warning) : List (List Char) :=
  [summaryRule, summary warnings, summaryRule].flatMap fun text =>
    Terminal.printed width text.toList

/-- The further fields of a rule that are shown; without details only severities are counted. -/
def shownFields (showDetails : Bool) : List String :=
  if showDetails then ["id", "message", "severity"] else ["severity"]

/-- The output lines of a terminal report. -/
def terminal [Library] (tree : FileTree) (cwd : Location) (root : Path) (width : Nat)
    (filesScanned : Int) (showDetails : Bool) (warnings : List Warning) :
    Except LintError (List (List Char)) := do
  let shown ← if showDetails then withPaths cwd root warnings else pure []
  requireWritable (warnings.all fun warning => (shownFields showDetails).all warning.rule.writes)
  pure (headerLines width filesScanned ++
    (sections shown).flatMap (sectionLines tree cwd root width) ++ summaryLines width warnings)

end ChannelLint.Report
