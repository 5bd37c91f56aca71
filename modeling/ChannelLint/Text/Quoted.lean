import ChannelLint.Text.Printable

/-!
# Quoted texts

A text as a literal: between quotes, with escapes for the quote, the backslash, line breaks, tabs
and everything that is not printable. Single quotes are used unless the text holds a single quote
and no double quote.
-/

namespace ChannelLint.Text

/-- The hexadecimal digits of a number in lower case, padded with zeros to the given length. -/
def hexDigits (length value : Nat) : List Char :=
  let digits := Nat.toDigits 16 value
  List.replicate (length - digits.length) '0' ++ digits

/-- The escape of a character by its code: two, four or eight hexadecimal digits. -/
def codeEscape (c : Char) : List Char :=
  if c.toNat < 0x100 then '\\' :: 'x' :: hexDigits 2 c.toNat
  else if c.toNat < 0x10000 then '\\' :: 'u' :: hexDigits 4 c.toNat
  else '\\' :: 'U' :: hexDigits 8 c.toNat

/-- One character of a literal between the given quotes. -/
def quotedChar (quote c : Char) : List Char :=
  if c == quote || c == '\\' then ['\\', c]
  else if c == '\n' then ['\\', 'n']
  else if c == '\r' then ['\\', 'r']
  else if c == '\t' then ['\\', 't']
  else if isPrintable c then [c]
  else codeEscape c

/-- The quote for a text: a single one, or a double one around single quotes alone. -/
def quoteFor (text : List Char) : Char :=
  if text.contains (Char.ofNat 39) && !text.contains '"' then '"' else Char.ofNat 39

/-- The text as a literal. -/
def quoted (text : List Char) : List Char :=
  let quote := quoteFor text
  quote :: text.flatMap (quotedChar quote) ++ [quote]

/-- The string as a literal. -/
def quotedString (text : String) : String :=
  String.ofList (quoted text.toList)

end ChannelLint.Text
