import ChannelLint.Config.Basic

/-!
# Reading configuration tables

A configuration table is checked field by field; the first field that is wrong is reported by its
path. Of a rule, the fields that the rule itself has are taken, in either spelling, and all others
are kept as they are.
-/

namespace ChannelLint

namespace Rule

/-- The switches of a rule by field name; each but one has two spellings. -/
def setSwitch? (rule : Rule) (key : String) (b : Bool) : Option Rule :=
  if key == "case_sensitive" || key == "case-sensitive" then some { rule with caseSensitive := b }
  else if key == "include_comments" || key == "include-comments" then
    some { rule with includeComments := b }
  else if key == "disabled" then some { rule with disabled := b }
  else none

/-- Whether the field holds the pattern. -/
def isPatternKey (key : String) : Bool :=
  key == "pattern" || key == "regex"

/-- Takes the fields of a table in order into a rule, of which the pattern has been seen if the
flag says so. -/
def takeFields (field : String) : Bool → Rule → Table → Except ConfigError (Bool × Rule)
  | seen, rule, [] => .ok (seen, rule)
  | seen, rule, (key, value) :: rest =>
      if isPatternKey key then
        match value with
        | .string pattern =>
            if pattern.isEmpty then .error (.notPatternText (field ++ "." ++ key))
            else takeFields field true { rule with pattern := pattern } rest
        | _ => .error (.notPatternText (field ++ "." ++ key))
      else
        match rule.setSwitch? key true with
        | some _ =>
            match value with
            | .bool b => takeFields field seen ((rule.setSwitch? key b).getD rule) rest
            | _ => .error (.notBoolean (field ++ "." ++ key))
        | none => takeFields field seen { rule with extra := Table.put key value rule.extra } rest

/-- Checks the severity of a rule and puts its normal name in place. -/
def normalizeSeverity (field : String) (rule : Rule) : Except ConfigError Rule :=
  match Table.get? "severity" rule.extra with
  | none | some .null => .ok rule
  | some (.string text) =>
      match Severity.ofText? text with
      | some severity =>
          .ok { rule with extra := Table.put "severity" (.string severity.name) rule.extra }
      | none => .error (.unknownSeverity (field ++ ".severity"))
  | some _ => .error (.notString (field ++ ".severity"))

/-- Fails unless the pattern of the rule can be read without options. -/
def checkPattern [Library] (field : String) (rule : Rule) : Except LintError Unit :=
  match Pattern.Regex.parse {} rule.pattern.toList with
  | .ok _ => .ok ()
  | .error error => .error (.ofPattern (.invalidPattern field rule.pattern) error)

/-- The rule that the fields of a value describe; its pattern has yet to be checked. -/
def ofFields (field : String) : Value → Except ConfigError Rule
  | .table entries => do
      let (seen, rule) ← takeFields field false { pattern := "" } entries
      if seen then normalizeSeverity field rule else throw (.missingPattern field)
  | _ => .error (.notTable field)

/-- The rule that a value configures. -/
def ofValue [Library] (field : String) (value : Value) : Except LintError Rule := do
  let rule ← (ofFields field value).mapError .config
  checkPattern field rule
  pure rule

/-- The path of an item of an array. -/
def itemPath (field : String) (index : Nat) : String :=
  field ++ "[" ++ toString index ++ "]"

/-- The rules that the values configure, numbered from `first`. -/
def ofValues [Library] (field : String) (first : Nat) : List Value → Except LintError (List Rule)
  | [] => .ok []
  | value :: rest => do
      let rule ← ofValue (itemPath field first) value
      let rules ← ofValues field (first + 1) rest
      pure (rule :: rules)

/-- The rules that an array configures. -/
def ofArray [Library] (field : String) (value : Value) : Except LintError (List Rule) :=
  match value with
  | .array items => ofValues field 0 items
  | _ => .error (.config (.notArrayOfTables field))

end Rule

namespace Config

/-- The strings of an array, trimmed. -/
def trimmedStrings? : List Value → Option (List String)
  | [] => some []
  | .string text :: rest =>
      (trimmedStrings? rest).map (String.ofList (Text.trim text.toList) :: ·)
  | _ :: _ => none

/-- A list of strings; a null value is an empty one. -/
def stringList (field : String) : Value → Except ConfigError (List String)
  | .null => .ok []
  | .array items =>
      match trimmedStrings? items with
      | some texts => .ok texts
      | none => .error (.notStringList field)
  | _ => .error (.notStringList field)

/-- The indentation character that a value names; spaces when there is none. -/
def indentCharacter (field : String) : Option Value → Except ConfigError IndentCharacter
  | none => .ok .space
  | some (.string text) =>
      let normal := String.ofList (Text.lower (Text.trim text.toList))
      if normal == "space" then .ok .space
      else if normal == "tab" then .ok .tab
      else .error (.unknownIndentCharacter (field ++ ".character"))
  | some _ => .error (.unknownIndentCharacter (field ++ ".character"))

/-- The number of characters of a level: by default one tab, or four spaces. -/
def indentCount (field : String) (character : IndentCharacter) :
    Option Value → Except ConfigError Int
  | none => .ok (if character == .tab then 1 else 4)
  | some (.integer count) =>
      if count ≤ 0 then .error (.notPositive (field ++ ".count")) else .ok count
  | some _ => .error (.notInteger (field ++ ".count"))

/-- How lines are indented; nothing is checked when the value is absent, null or false. -/
def indentConfig (field : String) : Option Value → Except ConfigError (Option IndentConfig)
  | none | some .null | some (.bool false) => .ok none
  | some (.table entries) => do
      let character ← indentCharacter field (Table.get? "character" entries)
      let count ← indentCount field character (Table.get? "count" entries)
      pure (some ⟨character, count⟩)
  | some _ => .error (.notTable field)

/-- The patterns of the paths to ignore. -/
def ignoredPaths (field : String) : Option Value → Except ConfigError (List String)
  | none | some .null => .ok []
  | some (.table entries) =>
      stringList (field ++ ".paths") ((Table.get? "paths" entries).getD (.array []))
  | some _ => .error (.notTable field)

/-- The path of a top-level field. -/
def fieldPath (scope key : String) : String :=
  if scope.isEmpty then key else scope ++ "." ++ key

/-- The rules that a table configures; the built-in ones when it lists none. -/
def rulesOf [Library] (scope : String) (entries : Table) : Except LintError (List Rule) :=
  match Table.get? "rules" entries with
  | some value => Rule.ofArray (fieldPath scope "rules") value
  | none => .ok builtInRules

/-- The suffixes of files that a table configures. -/
def extensionsOf (scope : String) (entries : Table) : Except ConfigError (List String) :=
  match Table.get? "extensions" entries with
  | some value => stringList (fieldPath scope "extensions") value
  | none => .ok defaultExtensions

/-- The configuration of a table whose fields stand at the given key of a document. -/
def ofTable [Library] (scope : String) (entries : Table) : Except LintError Config := do
  let rules ← rulesOf scope entries
  let extensions ← (extensionsOf scope entries).mapError .config
  let indentation ← (indentConfig (fieldPath scope "indentation")
    (Table.get? "indentation" entries)).mapError .config
  let ignored ← (ignoredPaths (fieldPath scope "ignore")
    (Table.get? "ignore" entries)).mapError .config
  pure { rules := rules, indentation := indentation, extensions := extensions, ignored := ignored }

end Config

end ChannelLint
