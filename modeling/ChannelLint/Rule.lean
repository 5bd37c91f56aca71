import ChannelLint.Path
import ChannelLint.Pattern.Match
import ChannelLint.Severity
import ChannelLint.Value

/-!
# Rules and warnings

A rule is a pattern with a few switches and any further fields of its configuration, which travel
into every warning. A warning names a rule, a file and a line, and holds what the rule matched.
-/

namespace ChannelLint

/-- A configured pattern check. -/
structure Rule where
  /-- The text of the pattern. -/
  pattern : String
  /-- Whether letter case counts. -/
  caseSensitive : Bool := false
  /-- Whether the rule looks into comments. -/
  includeComments : Bool := false
  /-- Whether the rule is switched off. -/
  disabled : Bool := false
  /-- All further fields, in the order of the configuration. -/
  extra : Table := []
  deriving Repr

namespace Rule

/-- The identifier of the rule; a null one counts as absent. -/
def id? (rule : Rule) : Option String :=
  match Table.get? "id" rule.extra with
  | none | some .null => none
  | some value => some value.display

/-- The severity of the rule as a text. -/
def severity (rule : Rule) : String :=
  ((Table.get? "severity" rule.extra).map Value.display).getD Severity.warning.name

/-- The message of the rule; its pattern when it has none. -/
def message (rule : Rule) : String :=
  ((Table.get? "message" rule.extra).map Value.display).getD rule.pattern

/-- Whether the further field of the given name, if there is one, can be written. -/
def writes (rule : Rule) (field : String) : Bool :=
  ((Table.get? field rule.extra).map Value.isWritable).getD true

/-- The name of the rule in error messages: its identifier unless that is empty, else its
pattern. -/
def label (rule : Rule) : String :=
  match rule.id? with
  | some id => if id.isEmpty then rule.pattern else id
  | none => rule.pattern

/-- All fields of the rule; a field of the rule itself takes the place of a further field of that
name. -/
def toTable (rule : Rule) : Table :=
  Table.putAll rule.extra
    [("pattern", .string rule.pattern),
     ("case_sensitive", .bool rule.caseSensitive),
     ("include_comments", .bool rule.includeComments),
     ("disabled", .bool rule.disabled)]

/-- Whether all fields of the rule can be written. -/
def isWritable (rule : Rule) : Bool :=
  (Value.table rule.toTable).isWritable

/-- The options under which the pattern is matched. -/
def flags (rule : Rule) : Pattern.Flags :=
  { multiLine := true, ignoreCase := !rule.caseSensitive }

end Rule

/-- What a rule matched. -/
structure MatchedText where
  /-- The matched characters. -/
  text : String
  /-- The characters that the groups matched. -/
  groups : List (Option String) := []
  /-- The number of characters before the match. -/
  start : Nat := 0
  /-- The number of characters up to its end. -/
  stop : Nat := 0
  deriving DecidableEq, Repr

/-- The fields of a match. -/
def MatchedText.toValue (found : MatchedText) : Value :=
  .table
    [("text", .string found.text),
     ("groups", .array (found.groups.map fun
       | some text => .string text
       | none => .null)),
     ("start", .integer found.start),
     ("end", .integer found.stop)]

/-- A warning on a line of a file. -/
structure Warning where
  /-- The rule that was broken. -/
  rule : Rule
  /-- The file. -/
  path : Path
  /-- The ordinal of the line, from zero. -/
  line : Int
  /-- What was matched; a warning about indentation matches nothing. -/
  found : Option MatchedText := none
  deriving Repr

/-- All fields of the warning, with its path as the given text. -/
def Warning.toTable (warning : Warning) (path : String) : Table :=
  Table.putAll warning.rule.toTable
    [("path", .string path),
     ("line", .integer warning.line),
     ("match", match warning.found with
       | some found => found.toValue
       | none => .null)]

/-- Whether all fields of the warning can be written. -/
def Warning.isWritable (warning : Warning) : Bool :=
  (Value.table (warning.toTable warning.path.toString)).isWritable

end ChannelLint
