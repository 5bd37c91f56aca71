import ChannelLint.Dialect
import ChannelLint.Text.Lines

/-!
# Comments

Comment text is taken out of a file line by line, so that every line keeps its place and its
terminator. A script comment ends with its line. A markup comment may span lines; the state after a
line says whether the next one starts inside a comment.
-/

namespace ChannelLint

/-- Whether a line starts inside a comment. -/
inductive CommentState where
  /-- No comment is open. -/
  | outside
  /-- A comment is open. -/
  | inside
  deriving DecidableEq, Repr

namespace CommentState

/-- The name of a state. -/
def name : CommentState → String
  | outside => "outside"
  | inside => "inside"

end CommentState

namespace Comment

/-! ## Scripts -/

/-- The mark that starts a script comment. -/
def scriptMark : Char := Char.ofNat 39

/-- The text before the first comment mark that stands outside a string literal. A quote opens or
closes a literal; a doubled one inside a literal does both. -/
def scriptCode (inString : Bool) : List Char → List Char
  | [] => []
  | c :: rest =>
      if c == '"' then c :: scriptCode (!inString) rest
      else if c == scriptMark && !inString then []
      else c :: scriptCode inString rest

/-- A script line without its comment. -/
def stripScript (line : List Char) : List Char :=
  let (body, terminator) := Text.splitTerminator line
  scriptCode false body ++ terminator

/-! ## Markup -/

/-- The mark that opens a markup comment. -/
def openMark : List Char := ['<', '!', '-', '-']

/-- The mark that closes a markup comment. -/
def closeMark : List Char := ['-', '-', '>']

/-- Whether a closing mark follows before the next line feed. -/
def closesInLine : List Char → Bool
  | '-' :: '-' :: '>' :: _ => true
  | c :: rest => c != '\n' && closesInLine rest
  | [] => false

/-- Takes out the comments that open and close within the line; the flag says that the text starts
within one. An opening mark that no closing mark follows stays. -/
def dropInline : Bool → List Char → List Char
  | _, [] => []
  | true, '-' :: '-' :: '>' :: after => dropInline false after
  | true, _ :: rest => dropInline true rest
  | false, '<' :: '!' :: '-' :: '-' :: after =>
      if closesInLine after then dropInline true after
      else '<' :: '!' :: '-' :: '-' :: dropInline false after
  | false, c :: rest => c :: dropInline false rest

/-- A markup line without its comments when no comment is open before it. -/
def stripMarkupOutside (body terminator : List Char) : CommentState × List Char :=
  let kept := dropInline false body
  match Text.splitOnce openMark kept with
  | some (before, _) => (.inside, before ++ terminator)
  | none => (.outside, kept ++ terminator)

/-- A markup line without its comments, and the state after it. -/
def stripMarkup (state : CommentState) (line : List Char) : CommentState × List Char :=
  let (body, terminator) := Text.splitTerminator line
  match state with
  | .outside => stripMarkupOutside body terminator
  | .inside =>
      match Text.splitOnce closeMark body with
      | some (_, after) => stripMarkupOutside after terminator
      | none => (.inside, terminator)

/-! ## Files -/

/-- A line without its comments, and the state after it. -/
def strip (dialect : Dialect) (state : CommentState) (line : List Char) :
    CommentState × List Char :=
  match dialect with
  | .script => (state, stripScript line)
  | .markup => stripMarkup state line
  | .plain => (state, line)

/-- A line of a file with what is left of it. -/
structure StrippedLine where
  /-- The line as it stands in the file. -/
  raw : List Char
  /-- The line without its comments. -/
  code : List Char
  /-- The state after the line. -/
  after : CommentState
  deriving DecidableEq, Repr

/-- Strips lines one after the other. -/
def stripLines (dialect : Dialect) (state : CommentState) : List (List Char) → List StrippedLine
  | [] => []
  | line :: rest =>
      let (after, code) := strip dialect state line
      ⟨line, code, after⟩ :: stripLines dialect after rest

/-- The state after all lines. -/
def finalState (lines : List StrippedLine) : CommentState :=
  (lines.getLast?.map StrippedLine.after).getD .outside

/-- The text that rules see which include comments: markup comments are kept, script comments never
are. -/
def withComments (dialect : Dialect) (lines : List StrippedLine) : List Char :=
  lines.flatMap fun line => if dialect == .script then line.code else line.raw

/-- The text that all other rules see. -/
def withoutComments (lines : List StrippedLine) : List Char :=
  lines.flatMap StrippedLine.code

end Comment

end ChannelLint
