import ChannelLint.Indentation.Machine
import ChannelLint.Scan

/-!
# Inspecting a file

The warnings of one file: those about indentation first, in the order of lines, then those of the
rules. Indentation is checked on the raw lines and is not affected by suppression.
-/

namespace ChannelLint

/-- The rule under which indentation is reported. -/
def indentationRule : Rule where
  pattern := ""
  extra :=
    [("id", .string "indentation"), ("severity", .string Severity.warning.name),
     ("message", .string "Incorrect indentation")]

/-- How files are inspected. -/
structure Inspector where
  /-- The rules, in order. -/
  rules : List Rule
  /-- How lines are indented, if that is checked. -/
  indentation : Option IndentConfig
  deriving Repr

namespace Inspection

/-- The depth machine run over stripped lines. -/
def indentSteps (dialect : Dialect) (lines : List Comment.StrippedLine) : List IndentStep :=
  Indentation.run dialect {} (lines.map fun line => (line.raw, line.after == .inside))

/-- The lines whose indentation is wrong, or an error when one cannot be spelled out. -/
def misindented (config : IndentConfig) (dialect : Dialect) (lines : List Comment.StrippedLine) :
    Except LintError (List Nat) :=
  let steps := (lines.map Comment.StrippedLine.raw).zip (indentSteps dialect lines)
  if steps.any fun (line, step) => Indentation.isTooLong config line step.checked then
    .error .indentTooLong
  else .ok (Indentation.flaggedFrom config 0 steps)

/-- The warnings about indentation. -/
def indentWarnings (inspector : Inspector) (path : Path) (lines : List Comment.StrippedLine) :
    Except LintError (List Warning) :=
  match inspector.indentation with
  | none => .ok []
  | some config => do
      let flagged ← misindented config (.ofPath path) lines
      pure (flagged.map fun (line : Nat) => ⟨indentationRule, path, line, none⟩)

/-- The result of inspecting a file: its warnings and the number of suppressed lines. -/
structure Result where
  /-- The warnings. -/
  warnings : List Warning
  /-- The number of suppressed lines. -/
  suppressed : Nat
  deriving Repr

/-- Inspects the text of a file. -/
def inspectText [Library] (inspector : Inspector) (path : Path) (text : List Char) :
    Except LintError Result := do
  let dialect := Dialect.ofPath path
  let lines := Text.splitLines text
  let suppressed := Suppression.lines lines
  let stripped := Comment.stripLines dialect .outside lines
  let indentation ← indentWarnings inspector path stripped
  let found ← Scan.warnings path suppressed (Comment.withComments dialect stripped).toArray
    (Comment.withoutComments stripped).toArray inspector.rules
  pure ⟨indentation ++ found, suppressed.length⟩

/-- What is logged about an inspected file. -/
def logMessage (path : Path) (result : Result) : String :=
  path.toString ++ ": " ++ toString result.warnings.length ++ " warning(s), " ++
    toString result.suppressed ++ " suppressed line(s), dialect=" ++ (Dialect.ofPath path).name

/-- Inspects the bytes of a file: decoded with replacement, line endings unified. -/
def inspectBytes [Library] (inspector : Inspector) (path : Path) (bytes : List UInt8) :
    Except LintError Result :=
  inspectText inspector path (Text.unifyNewlines (Text.decodeLossy bytes))

end Inspection

end ChannelLint
