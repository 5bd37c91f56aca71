import ChannelLint.Number.Double
import ChannelLint.Terminal.Wrap

/-!
# Grids

A table in a frame, with a title above it and a line under its headers. A column is as wide as its
widest cell and a blank on each side. Columns that do not fit are narrowed, the widest ones first.
-/

namespace ChannelLint.Terminal

/-- A column of a grid. -/
structure Column where
  /-- The text at the head of the column. -/
  header : List Char
  /-- Where the cells stand. -/
  alignment : Alignment
  deriving DecidableEq, Repr

/-! ## Measuring -/

/-- Whether a character ends a line for the measure of a text. -/
def endsLine (c : Char) : Bool :=
  let code := c.toNat
  (10 ≤ code && code ≤ 13) || (0x1C ≤ code && code ≤ 0x1E) || code == 0x85 || code == 0x2028
    || code == 0x2029

/-- The width of the widest line of a text; `current` cells of a line have been seen. -/
def widestFrom (current : Nat) : List Char → Nat
  | [] => current
  | c :: rest =>
      if endsLine c then max current (widestFrom 0 rest)
      else widestFrom (current + Text.charWidth c) rest

/-- The width of the widest line of a text. -/
def widest (text : List Char) : Nat :=
  widestFrom 0 text

/-- The width that a cell asks for when it may take at most the given width. -/
def cellDemand (most : Nat) (text : List Char) : Nat :=
  if most ≤ 2 then most else min (widest (dropControls text) + 2) most

/-- The width that a column asks for when it may take at most the given width. -/
def columnDemand (most : Nat) (cells : List (List Char)) : Nat :=
  (cells.map (cellDemand most)).foldl max 0

/-! ## Narrowing -/

/-- The width that columns take together. -/
def totalWidth (widths : List Nat) : Nat :=
  widths.foldr (· + ·) 0

/-- Takes a total away from the values that are marked, evenly, and from none more than its share;
`open` is the number of marked values left. -/
def reduceFrom (total left : Nat) : List (Bool × Nat × Nat) → List Nat
  | [] => []
  | (marked, most, value) :: rest =>
      if marked && left != 0 then
        let taken := min most (Double.divNearest total left)
        (value - taken) :: reduceFrom (total - taken) (left - 1) rest
      else value :: reduceFrom total left rest

/-- Takes a total away from the marked values, of which none gives more than the given maximum. -/
def reduce (total : Nat) (values : List (Bool × Nat × Nat)) : List Nat :=
  let marks := values.map fun (marked, most, value) => (marked && most != 0, most, value)
  reduceFrom total (marks.filter (·.1)).length marks

/-- Narrows the widest columns to the next narrower one until the widths fit; `fuel` bounds the
number of rounds. -/
def narrowWidest (room : Nat) : Nat → List Nat → List Nat
  | 0, widths => widths
  | fuel + 1, widths =>
      let excess := totalWidth widths - room
      let most := widths.foldl max 0
      let second := (widths.filter (· != most)).foldl max 0
      if totalWidth widths == 0 || excess == 0 || most == second then widths
      else
        narrowWidest room fuel
          (reduce excess (widths.map fun width => (width == most, min excess (most - second), width)))

/-- The widths of columns that ask for the given widths in the given room. -/
def columnWidths (room : Nat) (columns : List (List (List Char))) : List Nat :=
  let asked := columns.map fun cells => max 1 (columnDemand room cells)
  if totalWidth asked ≤ room then asked
  else
    let narrowed := narrowWidest room (totalWidth asked + 1) asked
    let fitting := if room < totalWidth narrowed then
        reduce (totalWidth narrowed - room) (narrowed.map fun width => (true, width, width))
      else narrowed
    (fitting.zip columns).map fun (width, cells) => columnDemand width cells

/-! ## Drawing -/

/-- A line of a frame. -/
def frameLine (left fill divider right : Char) (widths : List Nat) : List Char :=
  left :: List.intercalate [divider] (widths.map fun width => List.replicate width fill) ++ [right]

/-- The lines of a cell with a blank on each side. -/
def cellLines (alignment : Alignment) (width : Nat) (text : List Char) : List (List Char) :=
  (wrap alignment .ellipsis (width - 2) text).map fun line =>
    ' ' :: fit (width - 2) line ++ [' ']

/-- The lines of a row between the given edges; shorter cells are filled up with blanks below. -/
def rowLines (left divider right : Char) (widths : List Nat) (cells : List (List (List Char))) :
    List (List Char) :=
  let height := (cells.map List.length).foldl max 1
  (List.range height).map fun ordinal =>
    let parts := (widths.zip cells).map fun (width, lines) => (lines[ordinal]?).getD (blanks width)
    left :: List.intercalate [divider] parts ++ [right]

/-- The lines of a grid in the given width; each row has a cell for each column. -/
def grid (width : Nat) (title : List Char) (columns : List Column)
    (rows : List (List (List Char))) : List (List Char) :=
  let frame := columns.length + 1
  let cells := columns.zipIdx.map fun (column, ordinal) =>
    column.header :: rows.map fun row => (row[ordinal]?).getD []
  let widths := columnWidths (width - frame) cells
  let row (left divider right : Char) (texts : List (List Char)) : List (List Char) :=
    rowLines left divider right widths
      ((columns.zip (widths.zip texts)).map fun (column, cellWidth, text) =>
        cellLines column.alignment cellWidth text)
  let lines :=
    wrap .center .fold (totalWidth widths + frame) title
      ++ [frameLine '┏' '━' '┳' '┓' widths]
      ++ row '┃' '┃' '┃' (columns.map Column.header)
      ++ [frameLine '┡' '━' '╇' '┩' widths]
      ++ rows.flatMap (row '│' '│' '│')
      ++ [frameLine '└' '─' '┴' '┘' widths]
  lines.map (crop width)

end ChannelLint.Terminal
