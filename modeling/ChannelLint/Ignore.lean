import ChannelLint.Glob
import ChannelLint.Path
import ChannelLint.Text.Blank

/-!
# Ignored paths

Which files a project ignores. A pattern that ends with a slash names a directory and everything
below it, letter for letter. A pattern without a slash is matched against the name of the file and
against its path from the root, a pattern with slashes against the path alone. Files outside the
root are never ignored.
-/

namespace ChannelLint.Ignore

/-- A configured pattern as it is compared: trimmed, with slashes for backslashes, and without a
leading `./`. -/
def normalPattern (text : String) : List Char :=
  let pattern := (Text.trim text.toList).map fun c => if c == '\\' then '/' else c
  match pattern with
  | '.' :: '/' :: rest => rest
  | _ => pattern

/-- Whether a configured pattern is blank. -/
def isBlankPattern (text : String) : Bool :=
  Text.isBlankText text.toList

/-- Whether a pattern ignores the file at the given names below the root. -/
def matchesPattern (names : List String) (text : String) : Bool :=
  if isBlankPattern text then false
  else
    let relative := (Path.toString ⟨0, names⟩).toList
    let pattern := normalPattern text
    if pattern.getLast? == some '/' then pattern.isPrefixOf relative
    else
      let glob := Glob.parse pattern
      if pattern.contains '/' then glob.matches relative
      else glob.matches (names.getLast?.getD "").toList || glob.matches relative

/-- Whether one of the patterns ignores the file at a location. -/
def isIgnored (root : Location) (patterns : List String) (location : Location) : Bool :=
  match Location.relativeTo? root location with
  | some names => patterns.any (matchesPattern names)
  | none => false

/-- Whether one of the patterns ignores the file at a path; a path that has no location is not
ignored. -/
def isPathIgnored (cwd : Location) (root : Path) (patterns : List String) (path : Path) : Bool :=
  if path.hasNull || root.hasNull then false
  else isIgnored (root.resolveFrom cwd) patterns (path.resolveFrom cwd)

end ChannelLint.Ignore
