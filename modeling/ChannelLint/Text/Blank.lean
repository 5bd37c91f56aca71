/-!
# Blanks

The blank characters, and trimming. A blank is any character that a reader would take for white
space: the ASCII separators, the information separators `0x1c` to `0x1f`, the next-line mark, the
non-breaking space and the Unicode space, line and paragraph separators.
-/

namespace ChannelLint.Text

/-- Whether the character is a blank. -/
def isBlank (c : Char) : Bool :=
  let n := c.toNat
  (9 ≤ n && n ≤ 13) || (28 ≤ n && n ≤ 32) || n == 0x85 || n == 0xa0 || n == 0x1680
    || (0x2000 ≤ n && n ≤ 0x200a) || n == 0x2028 || n == 0x2029 || n == 0x202f || n == 0x205f
    || n == 0x3000

/-- Whether the character is one of the six ASCII blanks. -/
def isAsciiBlank (c : Char) : Bool :=
  let n := c.toNat
  (9 ≤ n && n ≤ 13) || n == 32

/-- The text without its leading blanks. -/
def trimStart (text : List Char) : List Char :=
  text.dropWhile isBlank

/-- The text without its trailing characters that satisfy the test. -/
def dropEndWhile (test : Char → Bool) (text : List Char) : List Char :=
  (text.reverse.dropWhile test).reverse

/-- The text without its trailing blanks. -/
def trimEnd (text : List Char) : List Char :=
  dropEndWhile isBlank text

/-- The text without leading and trailing blanks. -/
def trim (text : List Char) : List Char :=
  trimEnd (trimStart text)

/-- Whether the text holds nothing but blanks. -/
def isBlankText (text : List Char) : Bool :=
  text.all isBlank

end ChannelLint.Text
