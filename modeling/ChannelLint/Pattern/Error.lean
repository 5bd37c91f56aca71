import ChannelLint.Text.Quoted
import ChannelLint.Text.Lines

/-!
# Pattern errors

What can be wrong with a pattern. A fault of the pattern's form has a cause and, as a rule, a
position, counted in characters from the start of the pattern; its message names the line and
column too when the pattern has several lines. Four further faults are not faults of form: a
repetition count that is too large, a numeral that is too long, two incompatible options, and parts
that are nested too deeply.
-/

namespace ChannelLint.Pattern

/-- Why a pattern is malformed. -/
inductive Cause where
  | missingParenthesis
  | unbalancedParenthesis
  | unterminatedSet
  | nothingToRepeat
  | multipleRepeat
  | repeatBounds
  | unexpectedEnd
  | missingName (what : String)
  | unterminatedName (terminator : Char)
  | badGroupName (name : String)
  | groupRedefined (name : String) (index : Nat) (previous : Nat)
  | unknownGroupName (name : String)
  | unknownExtension (text : String)
  | variableLookBehind
  | longLookBehind
  | trailingBackslash
  | badEscape (text : String)
  | incompleteEscape (text : String)
  | octalEscape (text : String)
  | missingBrace
  | unknownCharacterName (name : String)
  | invalidGroupReference (index : Nat)
  | badGroupNumber
  | openGroup
  | lookBehindGroup
  | badRange (text : String)
  | lateFlags
  | missingFlagEnd
  | missingFlag
  | missingColon
  | unknownFlag
  | flagOnAndOff
  | localeFlag
  | incompatibleFlags
  | turnOffCharacterSet
  | turnOnGlobalFlag
  | turnOffGlobalFlag
  | unterminatedComment
  | tooManyBranches
  | templateRepeat (kind : String)
  deriving DecidableEq, Repr

/-- The wording of a cause. -/
def Cause.message : Cause → String
  | missingParenthesis => "missing ), unterminated subpattern"
  | unbalancedParenthesis => "unbalanced parenthesis"
  | unterminatedSet => "unterminated character set"
  | nothingToRepeat => "nothing to repeat"
  | multipleRepeat => "multiple repeat"
  | repeatBounds => "min repeat greater than max repeat"
  | unexpectedEnd => "unexpected end of pattern"
  | missingName what => "missing " ++ what
  | unterminatedName terminator => "missing " ++ String.ofList [terminator] ++ ", unterminated name"
  | badGroupName name => "bad character in group name " ++ Text.quotedString name
  | groupRedefined name index previous =>
      "redefinition of group name " ++ Text.quotedString name ++ " as group " ++ toString index ++
        "; was group " ++ toString previous
  | unknownGroupName name => "unknown group name " ++ Text.quotedString name
  | unknownExtension text => "unknown extension ?" ++ text
  | variableLookBehind => "look-behind requires fixed-width pattern"
  | longLookBehind => "looks too much behind"
  | trailingBackslash => "bad escape (end of pattern)"
  | badEscape text => "bad escape " ++ text
  | incompleteEscape text => "incomplete escape " ++ text
  | octalEscape text => "octal escape value " ++ text ++ " outside of range 0-0o377"
  | missingBrace => "missing \x7b"
  | unknownCharacterName name => "undefined character name " ++ Text.quotedString name
  | invalidGroupReference index => "invalid group reference " ++ toString index
  | badGroupNumber => "bad group number"
  | openGroup => "cannot refer to an open group"
  | lookBehindGroup => "cannot refer to group defined in the same lookbehind subpattern"
  | badRange text => "bad character range " ++ text
  | lateFlags => "global flags not at the start of the expression"
  | missingFlagEnd => "missing -, : or )"
  | missingFlag => "missing flag"
  | missingColon => "missing :"
  | unknownFlag => "unknown flag"
  | flagOnAndOff => "bad inline flags: flag turned on and off"
  | localeFlag => "bad inline flags: cannot use 'L' flag with a str pattern"
  | incompatibleFlags => "bad inline flags: flags 'a', 'u' and 'L' are incompatible"
  | turnOffCharacterSet => "bad inline flags: cannot turn off flags 'a', 'u' and 'L'"
  | turnOnGlobalFlag => "bad inline flags: cannot turn on global flag"
  | turnOffGlobalFlag => "bad inline flags: cannot turn off global flag"
  | unterminatedComment => "missing ), unterminated comment"
  | tooManyBranches => "conditional backref with more than two branches"
  | templateRepeat kind => "internal: unsupported template operator " ++ kind

/-- What can be wrong with a pattern. -/
inductive PatternError where
  /-- The pattern is malformed, at a position if one can be given. -/
  | malformed (cause : Cause) (position : Option Nat)
  /-- A repetition count is too large. -/
  | repetitionTooLarge
  /-- A numeral has too many digits. -/
  | numeralTooLong (digits : Nat)
  /-- The pattern asks for ASCII and for Unicode. -/
  | characterSetClash
  /-- The parts of the pattern are nested too deeply. -/
  | nestedTooDeeply
  deriving DecidableEq, Repr

/-- The line and column of a position, both counted from one. -/
def lineColumn (pattern : List Char) (position : Nat) : Nat × Nat :=
  let before := pattern.take position
  (Text.lineFeeds before + 1, (before.reverse.takeWhile (· != '\n')).length + 1)

/-- The wording of the fault of the given pattern. -/
def PatternError.message (pattern : List Char) : PatternError → String
  | malformed cause none => cause.message
  | malformed cause (some position) =>
      let place := " at position " ++ toString position
      let (line, column) := lineColumn pattern position
      let lines := if pattern.contains '\n' then
          " (line " ++ toString line ++ ", column " ++ toString column ++ ")"
        else ""
      cause.message ++ place ++ lines
  | repetitionTooLarge => "the repetition number is too large"
  | numeralTooLong digits =>
      "Exceeds the limit (4300 digits) for integer string conversion: value has " ++
        toString digits ++ " digits; use sys.set_int_max_str_digits() to increase the limit"
  | characterSetClash => "ASCII and UNICODE flags are incompatible"
  | nestedTooDeeply => "maximum recursion depth exceeded"

end ChannelLint.Pattern
