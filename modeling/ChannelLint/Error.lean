import ChannelLint.Pattern.Error
import ChannelLint.Text.Utf8
import ChannelLint.Value

/-!
# Errors

What can go wrong with a configuration, a file or a run, as causes; the wording of each stands in
one place.
-/

namespace ChannelLint

/-! ## Configuration documents -/

/-- Why a configuration document cannot be read. -/
inductive DocumentCause where
  | invalidStatement
  | invalidValue
  | expectedStatementEnd
  | expectedEquals
  | invalidKeyStart
  | expectedTableEnd
  | expectedArrayEnd
  | declaredTwice (key : List String)
  | overwrite
  | redefined (key : List String)
  | immutable (key : List String)
  | duplicateKey (key : String)
  | unclosedArray
  | unclosedTable
  | unescapedBackslash
  | invalidHex
  | notScalar
  | illegalCharacter (c : Char)
  | invalidCharacter (c : Char)
  | unterminatedString
  | expectedMark (mark : String)
  | invalidDate
  deriving DecidableEq, Repr

/-- A key path as it is shown: a single part has a comma after it. -/
def keyPathText : List String → String
  | [key] => "(" ++ Text.quotedString key ++ ",)"
  | keys => "(" ++ ", ".intercalate (keys.map Text.quotedString) ++ ")"

/-- The wording of a cause. -/
def DocumentCause.message : DocumentCause → String
  | invalidStatement => "Invalid statement"
  | invalidValue => "Invalid value"
  | expectedStatementEnd => "Expected newline or end of document after a statement"
  | expectedEquals => "Expected '=' after a key in a key/value pair"
  | invalidKeyStart => "Invalid initial character for a key part"
  | expectedTableEnd => "Expected ']' at the end of a table declaration"
  | expectedArrayEnd => "Expected ']]' at the end of an array declaration"
  | declaredTwice key => "Cannot declare " ++ keyPathText key ++ " twice"
  | overwrite => "Cannot overwrite a value"
  | redefined key => "Cannot redefine namespace " ++ keyPathText key
  | immutable key => "Cannot mutate immutable namespace " ++ keyPathText key
  | duplicateKey key => "Duplicate inline table key " ++ Text.quotedString key
  | unclosedArray => "Unclosed array"
  | unclosedTable => "Unclosed inline table"
  | unescapedBackslash => "Unescaped '\\' in a string"
  | invalidHex => "Invalid hex value"
  | notScalar => "Escaped character is not a Unicode scalar value"
  | illegalCharacter c => "Illegal character " ++ String.ofList (Text.quoted [c])
  | invalidCharacter c => "Found invalid character " ++ String.ofList (Text.quoted [c])
  | unterminatedString => "Unterminated string"
  | expectedMark mark => "Expected " ++ Text.quotedString mark
  | invalidDate => "Invalid date or datetime"

/-- Where a document is wrong: a line and a column, counted from one, or its end. -/
inductive DocumentPlace where
  | at (line column : Nat)
  | atEnd
  deriving DecidableEq, Repr

/-- Why and where a configuration document cannot be read. -/
inductive DocumentError where
  /-- The document is malformed. -/
  | malformed (cause : DocumentCause) (place : DocumentPlace)
  /-- A numeral has too many digits. -/
  | numeralTooLong (digits : Nat)
  deriving DecidableEq, Repr

/-- The wording of a document error. -/
def DocumentError.message : DocumentError → String
  | malformed cause (.at line column) =>
      cause.message ++ " (at line " ++ toString line ++ ", column " ++ toString column ++ ")"
  | malformed cause .atEnd => cause.message ++ " (at end of document)"
  | numeralTooLong digits => Pattern.PatternError.message [] (.numeralTooLong digits)

/-! ## Configurations -/

/-- Why a configuration is invalid; fields are named by their path. -/
inductive ConfigError where
  | document (path : String) (cause : DocumentCause) (place : DocumentPlace)
  | notArrayOfTables (field : String)
  | notTable (field : String)
  | notPatternText (field : String)
  | notBoolean (field : String)
  | missingPattern (field : String)
  | notString (field : String)
  | unknownSeverity (field : String)
  | invalidPattern (field pattern : String) (cause : Pattern.Cause) (position : Option Nat)
  | notStringList (field : String)
  | unknownIndentCharacter (field : String)
  | notInteger (field : String)
  | notPositive (field : String)
  | rulePattern (label pattern : String) (cause : Pattern.Cause) (position : Option Nat)
  deriving DecidableEq, Repr

/-- A field name as it is shown in a message. -/
def fieldText (field : String) : String :=
  "`" ++ field ++ "`"

/-- The wording of a configuration error. -/
def ConfigError.message : ConfigError → String
  | document path cause place =>
      "Invalid TOML in " ++ path ++ ": " ++ (DocumentError.malformed cause place).message
  | notArrayOfTables field => fieldText field ++ " must be an array of tables."
  | notTable field => fieldText field ++ " must be a table."
  | notPatternText field => fieldText field ++ " must be a non-empty string."
  | notBoolean field => fieldText field ++ " must be a boolean."
  | missingPattern field => fieldText (field ++ ".pattern") ++ " is required."
  | notString field => fieldText field ++ " must be a string."
  | unknownSeverity field => fieldText field ++ " must be one of: info, warning, error."
  | invalidPattern field pattern cause position =>
      fieldText (field ++ ".pattern") ++ " is not a valid regular expression: " ++
        Pattern.PatternError.message pattern.toList (.malformed cause position)
  | notStringList field => fieldText field ++ " must be a list of strings."
  | unknownIndentCharacter field => fieldText field ++ " must be one of: space, tab."
  | notInteger field => fieldText field ++ " must be an integer."
  | notPositive field => fieldText field ++ " must be > 0."
  | rulePattern label pattern cause position =>
      "Invalid pattern for rule " ++ Text.quotedString label ++ ": " ++
        Pattern.PatternError.message pattern.toList (.malformed cause position)

/-! ## Files and runs -/

/-- Why a file cannot be read. -/
inductive FileCause where
  | notFound
  | notDirectory
  | isDirectory
  deriving DecidableEq, Repr

/-- The wording of a file error at a path. -/
def FileCause.message (path : String) : FileCause → String
  | notFound => "[Errno 2] No such file or directory: " ++ Text.quotedString path
  | notDirectory => "[Errno 20] Not a directory: " ++ Text.quotedString path
  | isDirectory => "[Errno 21] Is a directory: " ++ Text.quotedString path

/-- What can end a run. -/
inductive LintError where
  /-- The configuration is invalid. -/
  | config (error : ConfigError)
  /-- A repetition count in a pattern is too large. -/
  | repetitionTooLarge
  /-- A numeral has too many digits. -/
  | numeralTooLong (digits : Nat)
  /-- An integer has too many digits to be written. -/
  | integerTooLong
  /-- A pattern asks for ASCII and for Unicode. -/
  | characterSetClash
  /-- The parts of a pattern are nested too deeply. -/
  | nestedTooDeeply
  /-- A file cannot be read. -/
  | file (cause : FileCause) (path : String)
  /-- A configuration file is not UTF-8. -/
  | encoding (error : Text.Utf8Error)
  /-- A path holds a null character. -/
  | nullInPath
  /-- An indentation is too long to be spelled out. -/
  | indentTooLong
  deriving DecidableEq, Repr

/-- The wording of an error. -/
def LintError.message : LintError → String
  | config error => error.message
  | repetitionTooLarge => Pattern.PatternError.message [] .repetitionTooLarge
  | numeralTooLong digits => Pattern.PatternError.message [] (.numeralTooLong digits)
  | integerTooLong =>
      "Exceeds the limit (" ++ toString Text.maxNumeralDigits ++ " digits) for integer string " ++
        "conversion; use sys.set_int_max_str_digits() to increase the limit"
  | characterSetClash => Pattern.PatternError.message [] .characterSetClash
  | nestedTooDeeply => Pattern.PatternError.message [] .nestedTooDeeply
  | file cause path => cause.message path
  | encoding error => error.message
  | nullInPath => "embedded null byte"
  | indentTooLong => "cannot fit 'int' into an index-sized integer"

/-- A pattern error in the context that makes a malformed pattern a configuration error. -/
def LintError.ofPattern (context : Pattern.Cause → Option Nat → ConfigError) :
    Pattern.PatternError → LintError
  | .malformed cause position => .config (context cause position)
  | .repetitionTooLarge => .repetitionTooLarge
  | .numeralTooLong digits => .numeralTooLong digits
  | .characterSetClash => .characterSetClash
  | .nestedTooDeeply => .nestedTooDeeply

end ChannelLint
