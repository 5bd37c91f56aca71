import ChannelLint.Text.Case

/-!
# Suppressed lines

A line that holds the words `ignore-warning`, in any letter case and anywhere on the raw line, is
suppressed: rules report nothing on it.
-/

namespace ChannelLint

namespace Text

/-- The text after a word at its start, compared without regard to case. -/
def dropWord? : List Char → List Char → Option (List Char)
  | [], text => some text
  | _ :: _, [] => none
  | w :: word, c :: text => if sameLetter w.toNat c.toNat then dropWord? word text else none

/-- Whether the word occurs in the text, compared without regard to case. -/
def occursFolded (word : List Char) : List Char → Bool
  | [] => word.isEmpty
  | c :: rest => (dropWord? word (c :: rest)).isSome || occursFolded word rest

end Text

namespace Suppression

/-- The words that suppress a line. -/
def directive : List Char := "ignore-warning".toList

/-- Whether the line is suppressed. -/
def isDirective (line : List Char) : Bool :=
  Text.occursFolded directive line

/-- The ordinals of the suppressed lines, counted from `first`. -/
def linesFrom (first : Nat) : List (List Char) → List Nat
  | [] => []
  | line :: rest =>
      if isDirective line then first :: linesFrom (first + 1) rest else linesFrom (first + 1) rest

/-- The ordinals of the suppressed lines. -/
def lines (all : List (List Char)) : List Nat :=
  linesFrom 0 all

end Suppression

end ChannelLint
