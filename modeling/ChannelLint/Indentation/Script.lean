import ChannelLint.Comment
import ChannelLint.Suppression
import ChannelLint.Text.Blank
import ChannelLint.Text.Letter

/-!
# Blocks of scripts

Which script lines open a block and which close one. A line is judged by its code, the text without
comment and line break; keywords are compared without regard to case.
-/

namespace ChannelLint.Script

open Text

/-- Whether no word goes on with the text. -/
def wordEnds (text : List Char) : Bool :=
  match text with
  | [] => true
  | c :: _ => !isWord c

/-- The text after a whole word at its start. -/
def dropWholeWord? (word : String) (text : List Char) : Option (List Char) :=
  match dropWord? word.toList text with
  | some rest => if wordEnds rest then some rest else none
  | none => none

/-- Whether the text starts with one of the words, as a whole word. -/
def startsWithWord (words : List String) (text : List Char) : Bool :=
  words.any fun word => (dropWholeWord? word text).isSome

/-- Whether the text is one of the words and then only blanks. -/
def isWordAlone (words : List String) (text : List Char) : Bool :=
  words.any fun word =>
    match dropWord? word.toList text with
    | some rest => isBlankText rest
    | none => false

/-- Whether the text is the first word, blanks or none, and then satisfies the test. -/
def wordThen (word : String) (test : List Char → Bool) (text : List Char) : Bool :=
  match dropWord? word.toList text with
  | some rest => test (trimStart rest)
  | none => false

/-- Whether some place of the text satisfies the test, which sees the text from there on and
whether a word reaches up to the place. -/
def somewhere (test : Bool → List Char → Bool) (inWord : Bool) : List Char → Bool
  | [] => test inWord []
  | c :: rest => test inWord (c :: rest) || somewhere test (isWord c) rest

/-! ## Opening lines -/

/-- The keywords of functions. -/
def functionWords : List String := ["function", "sub"]

/-- Whether the text starts with `public` or `private`, blanks, and then satisfies the test. -/
def afterModifier (test : List Char → Bool) (text : List Char) : Bool :=
  ["public", "private"].any fun word =>
    match dropWord? word.toList text with
    | some (c :: rest) => isBlank c && test (trimStart rest)
    | _ => false

/-- Whether the trimmed code declares a function. -/
def declaresFunction (code : List Char) : Bool :=
  startsWithWord functionWords code || afterModifier (startsWithWord functionWords) code

/-- Whether the code holds a function expression after `=`, `:`, `(` or a comma. -/
def hasFunctionExpression (code : List Char) : Bool :=
  somewhere (fun _ text =>
    match text with
    | c :: rest =>
        ['=', ':', '(', ','].contains c &&
          functionWords.any fun word => wordThen word (fun r => r.head? == some '(') (trimStart rest)
    | [] => false) false code

/-- Whether the trimmed code starts a compiler directive that satisfies the test. -/
def directiveThen (test : List Char → Bool) : List Char → Bool
  | '#' :: rest => test (trimStart rest)
  | _ => false

/-- Whether the text starts with `if`, or with `else` and `if`. -/
def startsWithElseIf (text : List Char) : Bool :=
  wordThen "else" (startsWithWord ["if"]) text

/-- Whether the last character of the code that is no blank is an opening bracket. -/
def endsWithBracket (code : List Char) : Bool :=
  match (trimEnd code).getLast? with
  | some c => ['{', '[', '('].contains c
  | none => false

/-- Whether the code ends with the end of a function. -/
def endsFunctionInline (code : List Char) : Bool :=
  somewhere (fun inWord text => !inWord && wordThen "end" (isWordAlone functionWords) text) false code

/-- Whether the code is a conditional. -/
def isConditional (code : List Char) : Bool :=
  let text := trimStart code
  startsWithWord ["if"] text || startsWithElseIf text

/-- Whether the word `then` is followed by a statement. -/
def hasStatementAfterThen (code : List Char) : Bool :=
  somewhere (fun inWord text =>
    !inWord &&
      match dropWholeWord? "then" text with
      | some rest => !isBlankText rest
      | none => false) false code

/-- Whether the code starts a block in some way other than a conditional. -/
def startsBlock (code : List Char) : Bool :=
  let text := trimStart code
  declaresFunction text
    || hasFunctionExpression code
    || startsWithWord ["for", "while"] text
    || isWordAlone ["else"] text
    || directiveThen (fun r => startsWithWord ["if", "else"] r || startsWithElseIf r) text
    || isWordAlone ["try"] text
    || startsWithWord ["catch"] text
    || endsWithBracket code

/-- Whether the lines after the code are one level deeper. A conditional opens a block unless its
statement stands on the same line, and a function that ends on its line opens none. -/
def opens (code : List Char) : Bool :=
  if endsFunctionInline code then false
  else if isConditional code then !hasStatementAfterThen code
  else startsBlock code

/-! ## Closing lines -/

/-- Whether the code stands one level less deep than the lines before it. -/
def closes (code : List Char) : Bool :=
  let text := trimStart code
  (match text with
    | c :: _ => ['}', ']', ')'].contains c
    | [] => false)
    || wordThen "end" (startsWithWord ["function", "sub", "if", "for", "while", "try"]) text
    || isWordAlone ["end", "next"] text
    || startsWithWord ["else", "catch"] text
    || directiveThen (fun r =>
        startsWithWord ["else"] r || startsWithElseIf r || wordThen "end" (startsWithWord ["if"]) r)
        text

/-- The code of a line: the text without its comment and its trailing line breaks. -/
def codeOf (line : List Char) : List Char :=
  dropEndWhile (fun c => c == '\r' || c == '\n') (Comment.stripScript line)

end ChannelLint.Script
