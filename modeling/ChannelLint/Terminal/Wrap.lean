import ChannelLint.Terminal.Cells
import ChannelLint.Text.Blank
import ChannelLint.Text.Lines

/-!
# Wrapping

A text is laid out in lines of a given width. It is broken between words; the blanks before a break
stay on the earlier line as far as they fit. A word that is wider than a line starts on a line of
its own and is folded, or is cut with an ellipsis, as the overflow says.
-/

namespace ChannelLint.Terminal

/-! ## Characters -/

/-- Whether a character is left out of all output: bell, backspace, vertical tab, form feed and
carriage return. -/
def isDropped (c : Char) : Bool :=
  c.toNat == 7 || c.toNat == 8 || c.toNat == 11 || c.toNat == 12 || c.toNat == 13

/-- A text without the characters that are left out. -/
def dropControls (text : List Char) : List Char :=
  text.filter fun c => !isDropped c

/-- The distance of tab stops. -/
def tabWidth : Nat := 8

/-- A line in which each tab is a blank and further blanks up to the next tab stop; the line starts
in the given column. -/
def expandTabs (column : Nat) : List Char → List Char
  | [] => []
  | c :: rest =>
      if c == '\t' then
        let next := (column / tabWidth + 1) * tabWidth
        blanks (next - column) ++ expandTabs next rest
      else c :: expandTabs (column + Text.charWidth c) rest

/-! ## Words and breaks -/

/-- A word of a text with the blanks around it, and the rest. -/
def takeWord (text : List Char) : List Char × List Char :=
  let before := text.takeWhile Text.isBlank
  let afterBefore := text.drop before.length
  let body := afterBefore.takeWhile fun c => !Text.isBlank c
  let afterBody := afterBefore.drop body.length
  let after := afterBody.takeWhile Text.isBlank
  (before ++ body ++ after, afterBody.drop after.length)

/-- The words of a text, each with the blanks after it and the first also with those before it.
Blanks alone are no word. `fuel` bounds the number of words. -/
def wordsFrom : Nat → List Char → List (List Char)
  | 0, _ => []
  | fuel + 1, text =>
      if Text.isBlankText text then []
      else
        let (word, rest) := takeWord text
        word :: wordsFrom fuel rest

/-- The words of a text. -/
def words (text : List Char) : List (List Char) :=
  wordsFrom text.length text

/-- The breaks before the pieces of a folded word that starts at `start`; there is no break at the
start of the text. -/
def foldBreaks (start : Nat) : List (List Char) → List Nat
  | [] => []
  | piece :: rest =>
      (if start == 0 then [] else [start]) ++ foldBreaks (start + piece.length) rest

/-- The places of the breaks in a line of words of which the next starts at `start`, where `column`
cells of the line are taken. -/
def breaksFrom (width : Nat) (fold : Bool) (start column : Nat) : List (List Char) → List Nat
  | [] => []
  | word :: rest =>
      let size := Text.cellWidth (Text.trimEnd word)
      let next := start + word.length
      if size + column ≤ width then
        breaksFrom width fold next (column + Text.cellWidth word) rest
      else if width < size then
        if fold then
          let pieces := chop width word
          foldBreaks start pieces ++
            breaksFrom width fold next (Text.cellWidth (pieces.getLast?.getD [])) rest
        else
          (if start == 0 then [] else [start]) ++
            breaksFrom width fold next (Text.cellWidth word) rest
      else if column != 0 && start != 0 then
        start :: breaksFrom width fold next (Text.cellWidth word) rest
      else breaksFrom width fold next column rest

/-- The places of the breaks of a line. -/
def breaks (width : Nat) (fold : Bool) (line : List Char) : List Nat :=
  breaksFrom width fold 0 0 (words line)

/-- The pieces of a text between breaks; `from` characters have been passed. -/
def divideFrom (passed : Nat) (text : List Char) : List Nat → List (List Char)
  | [] => [text]
  | place :: rest =>
      text.take (place - passed) :: divideFrom place (text.drop (place - passed)) rest

/-- A line without blanks at its end as far as it has more characters than the width. -/
def trimBeyond (width : Nat) (line : List Char) : List Char :=
  let excess := line.length - width
  let ending := line.length - (Text.trimEnd line).length
  line.take (line.length - min ending excess)

/-! ## Layout -/

/-- What becomes of a word that is wider than a line. -/
inductive Overflow where
  /-- It goes on in the next lines. -/
  | fold
  /-- It is cut, with an ellipsis at the end. -/
  | ellipsis
  deriving DecidableEq, Repr

/-- Where a line stands in its width. -/
inductive Alignment where
  /-- At the left, without blanks to fill it up. -/
  | natural
  /-- At the left. -/
  | left
  /-- In the middle. -/
  | center
  deriving DecidableEq, Repr

/-- A line cut to the width. -/
def truncate (overflow : Overflow) (width : Nat) (line : List Char) : List Char :=
  if Text.cellWidth line ≤ width then line
  else
    match overflow with
    | .fold => cut width line
    | .ellipsis => fit (width - 1) line ++ ['…']

/-- A line put in its place. -/
def align (alignment : Alignment) (overflow : Overflow) (width : Nat) (line : List Char) :
    List Char :=
  match alignment with
  | .natural => truncate overflow width line
  | .left => let shown := truncate overflow width line; shown ++ blanks (width - Text.cellWidth shown)
  | .center => centerWith ' ' width (truncate overflow width (Text.trimEnd line))

/-- A line of text laid out in lines of the given width. -/
def wrapLine (alignment : Alignment) (overflow : Overflow) (width : Nat) (line : List Char) :
    List (List Char) :=
  let expanded := expandTabs 0 line
  (divideFrom 0 expanded (breaks width (overflow == .fold) expanded)).map fun piece =>
    align alignment overflow width (trimBeyond width piece)

/-- A text laid out in lines of the given width. Nothing is shown where there is no room. -/
def wrap (alignment : Alignment) (overflow : Overflow) (width : Nat) (text : List Char) :
    List (List Char) :=
  if width == 0 then []
  else (Text.splitAtChar '\n' (dropControls text)).flatMap (wrapLine alignment overflow width)

/-- A text in lines as printed: at the left, with long words folded. -/
def printed (width : Nat) (text : List Char) : List (List Char) :=
  wrap .natural .fold width text

/-- A text in lines that are never broken. -/
def unbroken (text : List Char) : List (List Char) :=
  (Text.splitAtChar '\n' (dropControls text)).map (expandTabs 0)

end ChannelLint.Terminal
