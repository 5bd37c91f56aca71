import ChannelLint.Pattern.Syntax
import ChannelLint.Text.Blank
import ChannelLint.Text.Case
import ChannelLint.Text.Letter

/-!
# Which characters a pattern part accepts

The characters that single codes, kinds and classes accept under the options in force. Without
regard to case a code accepts every character that differs from it in case only, and a range every
character one of whose case variants it holds.
-/

namespace ChannelLint.Pattern

/-- Whether the character belongs to a word. -/
def Flags.isWord (flags : Flags) (c : Char) : Bool :=
  if flags.ascii then c.isAlphanum || c == '_' else Text.isWord c

/-- Whether the character is of the kind. -/
def Category.holds (flags : Flags) : Category → Char → Bool
  | .digit, c => if flags.ascii then c.isDigit else Text.isDecimal c
  | .space, c => if flags.ascii then Text.isAsciiBlank c else Text.isBlank c
  | .word, c => flags.isWord c

/-- Whether the code accepts the character. -/
def Flags.sameCode (flags : Flags) (n : Nat) (c : Char) : Bool :=
  if !flags.ignoreCase then c.toNat == n
  else if flags.ascii then Text.lowerAsciiCode c.toNat == Text.lowerAsciiCode n
  else c.toNat == n || Text.sameLetter n c.toNat

/-- The code points that count as the character. -/
def Flags.variants (flags : Flags) (c : Char) : List Nat :=
  if !flags.ignoreCase then [c.toNat]
  else if flags.ascii then
    if c.isUpper then [c.toNat, c.toNat + 32]
    else if c.isLower then [c.toNat, c.toNat - 32]
    else [c.toNat]
  else if c.toNat < 128 && !c.isAlpha then [c.toNat]
  else c.toNat :: Text.caseVariants c.toNat

/-- Whether the entry of a class accepts the character. A listed code above `0xffff` accepts, when
case is ignored, only the characters whose lower-case form it is. -/
def ClassItem.holds (flags : Flags) (c : Char) : ClassItem → Bool
  | .code n =>
      if flags.ignoreCase && 0xffff < n then
        (if flags.ascii then Text.lowerAsciiCode c.toNat else Text.lowerCode c.toNat) == n
      else flags.sameCode n c
  | .range low high => (flags.variants c).any fun n => low ≤ n && n ≤ high
  | .category kind negated => kind.holds flags c != negated

/-- The test of a part that always takes exactly one character; `none` for all other parts. -/
def Node.charTest? (flags : Flags) : Node → Option (Char → Bool)
  | .code n => some (flags.sameCode n)
  | .notCode n => some fun c => !flags.sameCode n c
  | .any => some fun c => flags.dotAll || c != '\n'
  | .oneOf negated items => some fun c => items.any (·.holds flags c) != negated
  | _ => none

end ChannelLint.Pattern
