import ChannelLint.Path
import ChannelLint.Text.Blank
import ChannelLint.Text.Case

/-!
# Dialects

The two source languages of a channel, scripts and markup, told apart by the suffix of the file.
Files with any other suffix are plain text.
-/

namespace ChannelLint

/-- How the comments of a file are written. -/
inductive Dialect where
  /-- Script source: a comment runs from an apostrophe to the end of the line. -/
  | script
  /-- Markup: a comment stands between `<!--` and `-->`. -/
  | markup
  /-- No comments. -/
  | plain
  deriving DecidableEq, Repr

namespace Dialect

/-- The name of a dialect. -/
def name : Dialect → String
  | script => "script"
  | markup => "markup"
  | plain => "plain"

/-- The dialect of a lower-case suffix. -/
def ofSuffix (suffix : List Char) : Dialect :=
  if suffix == ".brs".toList then script
  else if suffix == ".xml".toList then markup
  else plain

/-- The dialect of a file, by its suffix without regard to case. -/
def ofPath (path : Path) : Dialect :=
  ofSuffix (Text.lower path.suffix)

end Dialect

/-- The suffixes of the files that are looked at unless the configuration says otherwise. -/
def defaultExtensions : List String :=
  [".brs", ".xml"]

/-- A suffix as it is compared: trimmed, in lower case and with its dot; `none` when nothing is
left of it. -/
def normalExtension? (text : String) : Option String :=
  match Text.lower (Text.trim text.toList) with
  | [] => none
  | '.' :: rest => some (String.ofList ('.' :: rest))
  | rest => some (String.ofList ('.' :: rest))

/-- The suffixes that a list of texts stands for, each once. -/
def normalExtensions (values : List String) : List String :=
  (values.filterMap normalExtension?).eraseDups

end ChannelLint
