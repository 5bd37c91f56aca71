/-!
# Lines

A text is cut into lines at line feeds only, and every line keeps its terminator. A form feed, a
carriage return or a Unicode separator does not end a line, so that the ordinal of a line is the
number of line feeds before it.
-/

namespace ChannelLint.Text

/-- The lines of a text: each ends with its line feed, except a last one that has none. -/
def splitLines : List Char → List (List Char)
  | [] => []
  | c :: rest =>
      if c == '\n' then [c] :: splitLines rest
      else
        match splitLines rest with
        | [] => [[c]]
        | line :: lines => (c :: line) :: lines

/-- The pieces of a text between the occurrences of a separator, which is dropped; there is always
at least one. -/
def splitAtChar (separator : Char) : List Char → List (List Char)
  | [] => [[]]
  | c :: rest =>
      if c == separator then [] :: splitAtChar separator rest
      else
        match splitAtChar separator rest with
        | [] => [[c]]
        | piece :: pieces => (c :: piece) :: pieces

/-- The text of a line and its terminator: a final line feed, or nothing. -/
def splitTerminator (line : List Char) : List Char × List Char :=
  if line.getLast? == some '\n' then (line.dropLast, ['\n']) else (line, [])

/-- The number of line feeds in a text. -/
def lineFeeds (text : List Char) : Nat :=
  text.count '\n'

/-- The text from the first occurrence of `part` on, split into what stands before it and what
stands after it. -/
def splitOnce (part : List Char) : List Char → Option (List Char × List Char)
  | [] => if part.isEmpty then some ([], []) else none
  | c :: rest =>
      if part.isPrefixOf (c :: rest) then some ([], (c :: rest).drop part.length)
      else (splitOnce part rest).map fun (before, after) => (c :: before, after)

/-- Whether `part` occurs in the text. -/
def occursIn (part text : List Char) : Bool :=
  (splitOnce part text).isSome

end ChannelLint.Text
