import ChannelLint.Comment

/-!
# Lexemes of a script line

A reader of script lines that knows the escape in string literals: two quotes in a row within a
literal are one escaped quote and the literal goes on, a single one ends it. `lexemes` cuts a line into
what such a reader sees. Stripping has no escape and only changes sides at every quote; the main
theorem, `strip_script_eq_lexemes`, says that it takes out exactly the comment that the reader sees.
-/

namespace ChannelLint.Comment

open Text

/-- What a script line is made of. -/
inductive Lexeme where
  /-- A character outside literals and comments. -/
  | code (c : Char)
  /-- The quote that opens a literal. -/
  | openQuote
  /-- A character of a literal. -/
  | content (c : Char)
  /-- A quote in a literal, written as two. -/
  | escapedQuote
  /-- The quote that closes a literal. -/
  | closeQuote
  /-- A comment with its mark. -/
  | comment (text : List Char)
  deriving DecidableEq, Repr

namespace Lexeme

/-- The characters of a lexeme. -/
def text : Lexeme → List Char
  | code c => [c]
  | openQuote => ['"']
  | content c => [c]
  | escapedQuote => ['"', '"']
  | closeQuote => ['"']
  | comment text => text

/-- Whether the lexeme is a comment. -/
def isComment : Lexeme → Bool
  | comment _ => true
  | _ => false

end Lexeme

/-- The lexemes of a text that starts in a literal or outside literals. A literal that is not closed
goes on up to the end; a comment starts at the first comment mark outside literals. -/
def lexemes : Bool → List Char → List Lexeme
  | _, [] => []
  | true, '"' :: '"' :: rest => .escapedQuote :: lexemes true rest
  | true, '"' :: rest => .closeQuote :: lexemes false rest
  | true, c :: rest => .content c :: lexemes true rest
  | false, '"' :: rest => .openQuote :: lexemes true rest
  | false, c :: rest =>
      if c = scriptMark then [.comment (c :: rest)] else .code c :: lexemes false rest

/-- The characters of the lexemes that are no comments. -/
def keptText (parts : List Lexeme) : List Char :=
  (parts.filter fun part => !part.isComment).flatMap Lexeme.text

/-- What is kept of the lexemes of a line starts with the first unless that is a comment. -/
theorem kept_text_cons (part : Lexeme) (parts : List Lexeme) :
    keptText (part :: parts) = (if part.isComment then [] else part.text) ++ keptText parts := by
  cases hpart : part.isComment <;> simp [keptText, hpart]

/-- Cutting a text into lexemes loses nothing. -/
theorem lexemes_text (inLiteral : Bool) (text : List Char) :
    (lexemes inLiteral text).flatMap Lexeme.text = text := by
  fun_induction lexemes inLiteral text <;> simp_all [Lexeme.text]

/-- The code of a text that starts in a literal or outside literals is what is kept of its lexemes.
Between two lexemes both readers are on the same side of the quotes; only within an escaped quote the
one that has no escape is outside the literal. -/
theorem script_code_eq_kept (inLiteral : Bool) (text : List Char) :
    scriptCode inLiteral text = keptText (lexemes inLiteral text) := by
  fun_induction lexemes inLiteral text with
  | case1 => rfl
  | case2 rest ih =>
      rw [kept_text_cons, ← ih]
      rfl
  | case3 rest hescaped ih =>
      rw [kept_text_cons, ← ih]
      rfl
  | case4 c rest hescaped hclose ih =>
      have hquote : (c == '"') = false := by simpa using hclose
      rw [kept_text_cons, ← ih, scriptCode, hquote]
      simp [Lexeme.isComment, Lexeme.text]
  | case5 rest ih =>
      rw [kept_text_cons, ← ih]
      rfl
  | case6 rest hopen => rfl
  | case7 c rest hopen hmark ih =>
      have hquote : (c == '"') = false := by simpa using hopen
      have hcode : (c == scriptMark) = false := by simpa using hmark
      rw [kept_text_cons, ← ih, scriptCode, hquote, hcode]
      simp [Lexeme.isComment, Lexeme.text]

/-- A stripped script line is what is kept of the lexemes of its body, which make up the body, and
its terminator. -/
theorem strip_script_eq_lexemes (line : List Char) :
    (lexemes false (splitTerminator line).1).flatMap Lexeme.text = (splitTerminator line).1 ∧
      stripScript line =
        keptText (lexemes false (splitTerminator line).1) ++ (splitTerminator line).2 := by
  refine ⟨lexemes_text false (splitTerminator line).1, ?_⟩
  rw [← script_code_eq_kept]
  rfl

/-- Three quotes in a row open a literal that starts with an escaped quote. -/
example : lexemes false "\"\"\"'\"a'".toList =
    [.openQuote, .escapedQuote, .content scriptMark, .closeQuote, .code 'a',
      .comment [scriptMark]] := by
  decide +kernel

end ChannelLint.Comment
