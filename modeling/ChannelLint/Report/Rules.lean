import ChannelLint.Config.Basic
import ChannelLint.Report.Basic
import ChannelLint.Terminal.Grid
import ChannelLint.Terminal.StyleTag

/-!
# Lists of rules

The rules of a configuration as a table for reading, and how it indents.
-/

namespace ChannelLint.Report

/-- The columns of the table of rules. -/
def ruleColumns : List Terminal.Column :=
  [⟨"ID".toList, .left⟩, ⟨"Enabled".toList, .center⟩, ⟨"Severity".toList, .left⟩,
   ⟨"Comments".toList, .center⟩, ⟨"Case".toList, .center⟩, ⟨"Pattern".toList, .left⟩]

/-- A switch as it is shown. -/
def switchText (b : Bool) : List Char :=
  (if b then "yes" else "no").toList

/-- The identifier of a rule as it is shown. -/
def idText [Library] (rule : Rule) : List Char :=
  match rule.id? with
  | some id => if id.isEmpty then ['-'] else Terminal.shown id.toList
  | none => ['-']

/-- The row of a rule; its identifier and its severity may hold style tags. -/
def ruleRow [Library] (rule : Rule) : List (List Char) :=
  [idText rule, switchText !rule.disabled, Terminal.shown rule.severity.toList,
   switchText rule.includeComments, switchText rule.caseSensitive, rule.pattern.toList]

/-- How lines are indented, as it is shown. -/
def indentText (config : IndentConfig) : String :=
  "Indentation: " ++ toString config.count ++ " " ++ config.character.name ++ "(s) per level"

/-- The output lines of how lines are indented. -/
def indentLines (width : Nat) : Option IndentConfig → Except LintError (List (List Char))
  | none => .ok []
  | some indentation => do
      requireWritable (isWritableInteger indentation.count)
      pure (Terminal.printed width (indentText indentation).toList)

/-- The output lines of the list of rules. -/
def rulesLines [Library] (width : Nat) (config : Config) :
    Except LintError (List (List Char)) := do
  requireWritable (config.rules.all fun rule => rule.writes "id" && rule.writes "severity")
  let indentation ← indentLines width config.indentation
  pure (Terminal.grid width (toolName ++ " rules").toList ruleColumns (config.rules.map ruleRow) ++
    indentation)

end ChannelLint.Report
