import ChannelLint.Text.CellWidth

/-!
# Cells of a terminal line

A character takes no cell, one or two. Texts are cut and filled up to a number of cells; a wide
character that would cross the edge gives way to a blank.
-/

namespace ChannelLint.Terminal

/-- A number of blanks. -/
def blanks (count : Nat) : List Char :=
  List.replicate count ' '

/-- Looks for the place of a cut between `start` and `stop`: the part up to and including it takes
`total` cells, or one more with a wide character at its end, which a blank replaces. `fuel` bounds
the number of halvings. -/
def cutBetween (text : List Char) (total : Nat) : Nat → Nat → Nat → List Char
  | 0, start, _ => text.take start
  | fuel + 1, start, stop =>
      let middle := (start + stop) / 2
      let before := text.take (middle + 1)
      let width := Text.cellWidth before
      if width == total + 1 && (before.getLast?.map Text.charWidth) == some 2 then
        before.dropLast ++ [' ']
      else if width == total then before
      else if total < width then cutBetween text total fuel start middle
      else cutBetween text total fuel middle stop

/-- A text that is too wide, cut to the given number of cells. -/
def cut (total : Nat) (text : List Char) : List Char :=
  if total == 0 then [] else cutBetween text total (text.length + 1) 0 text.length

/-- A text cut or filled up with blanks to the given number of cells. -/
def fit (total : Nat) (text : List Char) : List Char :=
  if total < Text.cellWidth text then cut total text
  else text ++ blanks (total - Text.cellWidth text)

/-- A text cut to at most the given number of cells. -/
def crop (total : Nat) (text : List Char) : List Char :=
  if total < Text.cellWidth text then cut total text else text

/-- The pieces of a text that each fit into a line of the given width; `room` cells are left in the
line that starts the text. -/
def chopFrom (width room : Nat) : List Char → List (List Char)
  | [] => [[]]
  | c :: rest =>
      let size := Text.charWidth c
      if room < size then
        match chopFrom width (width - size) rest with
        | [] => [[], [c]]
        | piece :: more => [] :: (c :: piece) :: more
      else
        match chopFrom width (room - size) rest with
        | [] => [[c]]
        | piece :: more => (c :: piece) :: more

/-- The pieces of a text that each fit into a line of the given width. -/
def chop (width : Nat) (text : List Char) : List (List Char) :=
  chopFrom width width text

/-- A text in the middle of the given number of cells; the smaller half of the filling stands to
its left. -/
def centerWith (filling : Char) (total : Nat) (text : List Char) : List Char :=
  let spare := total - Text.cellWidth text
  List.replicate (spare / 2) filling ++ text ++ List.replicate (spare - spare / 2) filling

end ChannelLint.Terminal
