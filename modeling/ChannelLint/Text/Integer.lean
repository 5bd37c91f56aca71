import ChannelLint.Text.Blank
import ChannelLint.Text.Letter

/-!
# Reading integers

The integer that a text spells: blanks around it, a sign, and decimal digits of any script with
single underscores between them. The information separators do not count as blanks here. A numeral
of more than 4300 digits is refused.
-/

namespace ChannelLint.Text

/-- The most digits that a numeral may have. -/
def maxNumeralDigits : Nat := 4300

/-- The digit values of a numeral: digits with single underscores between them. `afterDigit` says
that a digit stands right before the text. -/
def numeralDigits? (afterDigit : Bool) : List Char → Option (List Nat)
  | [] => if afterDigit then some [] else none
  | c :: rest =>
      if c == '_' then
        if afterDigit then numeralDigits? false rest else none
      else
        match digitValue? c with
        | some digit => (numeralDigits? true rest).map (digit :: ·)
        | none => none

/-- The number with the given digits, most significant first. -/
def ofDigits (base : Nat) (digits : List Nat) : Nat :=
  digits.foldl (fun total digit => total * base + digit) 0

/-- The natural number that a numeral without sign spells. -/
def readNumeral? (text : List Char) : Option Nat :=
  match numeralDigits? false text with
  | some digits => if digits.length ≤ maxNumeralDigits then some (ofDigits 10 digits) else none
  | none => none

/-- Whether the character may stand around a numeral: it is a blank and no information separator. -/
def isNumeralBlank (c : Char) : Bool :=
  isBlank c && !(28 ≤ c.toNat && c.toNat ≤ 31)

/-- The integer that a text spells. -/
def readInteger? (text : List Char) : Option Int :=
  match dropEndWhile isNumeralBlank (text.dropWhile isNumeralBlank) with
  | '-' :: rest => (readNumeral? rest).map (- Int.ofNat ·)
  | '+' :: rest => (readNumeral? rest).map Int.ofNat
  | rest => (readNumeral? rest).map Int.ofNat

end ChannelLint.Text
