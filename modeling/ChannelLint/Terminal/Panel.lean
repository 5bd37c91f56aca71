import ChannelLint.Terminal.Wrap

/-!
# Panels

A text in a frame that takes the whole width, with a caption in its lower edge.
-/

namespace ChannelLint.Terminal

/-- The lower edge of a panel; a panel too narrow for a caption has none. -/
def panelEdge (width : Nat) (caption : List Char) : List Char :=
  if width ≤ 4 then '╰' :: List.replicate (width - 2) '─' ++ ['╯']
  else
    let label := crop (width - 4) (' ' :: caption ++ [' '])
    ['╰', '─'] ++ centerWith '─' (width - 4) label ++ ['─', '╯']

/-- The lines of a panel. -/
def panel (width : Nat) (text caption : List Char) : List (List Char) :=
  let top := '╭' :: List.replicate (width - 2) '─' ++ ['╮']
  let body := (printed (width - 4) text).map fun line =>
    ['│', ' '] ++ fit (width - 4) line ++ [' ', '│']
  (top :: body ++ [panelEdge width caption]).map (crop width)

end ChannelLint.Terminal
