import ChannelLint.Value
import ChannelLint.Text.Integer

/-!
# Reading JSON

A reader of standard JSON that keeps the order of table entries and the size of integers. A number
with a fraction or an exponent is a floating-point number. When a key is repeated its last value
stands in the place of the first.
-/

namespace ChannelLint.Json

/-- The text without leading JSON blanks. -/
def skipBlanks (text : List Char) : List Char :=
  text.dropWhile fun c => c == ' ' || c == '\t' || c == '\n' || c == '\r'

/-- The value of a hexadecimal digit. -/
def hexValue? (c : Char) : Option Nat :=
  if c.isDigit then some (c.toNat - 48)
  else if 'a' ≤ c && c ≤ 'f' then some (c.toNat - 87)
  else if 'A' ≤ c && c ≤ 'F' then some (c.toNat - 55)
  else none

/-- The unit that four hexadecimal digits name. -/
def unit? (a b c d : Char) : Option Nat := do
  let digits ← [a, b, c, d].mapM hexValue?
  pure (Text.ofDigits 16 digits)

/-- The character that a one-letter escape names. -/
def simpleEscape? (c : Char) : Option Nat :=
  if c == '"' || c == '\\' || c == '/' then some c.toNat
  else if c == 'b' then some 8
  else if c == 'f' then some 12
  else if c == 'n' then some 10
  else if c == 'r' then some 13
  else if c == 't' then some 9
  else none

/-- Reads the rest of a string after its opening quote as code points and UTF-16 units. -/
def readUnits : List Char → Option (List Nat × List Char)
  | '"' :: rest => some ([], rest)
  | '\\' :: 'u' :: a :: b :: c :: d :: rest => do
      let unit ← unit? a b c d
      let (units, rest) ← readUnits rest
      pure (unit :: units, rest)
  | '\\' :: c :: rest => do
      let code ← simpleEscape? c
      let (units, rest) ← readUnits rest
      pure (code :: units, rest)
  | c :: rest =>
      if c.toNat < 0x20 then none
      else do
        let (units, rest) ← readUnits rest
        pure (c.toNat :: units, rest)
  | [] => none

/-- Joins each high unit with the low unit after it to one character. -/
def joinUnits : List Nat → List Char
  | [] => []
  | [unit] => [Char.ofNat unit]
  | high :: low :: rest =>
      if 0xd800 ≤ high && high < 0xdc00 && 0xdc00 ≤ low && low < 0xe000 then
        Char.ofNat (0x10000 + (high - 0xd800) * 0x400 + (low - 0xdc00)) :: joinUnits rest
      else Char.ofNat high :: joinUnits (low :: rest)

/-- Reads the rest of a string after its opening quote. -/
def readString (text : List Char) : Option (String × List Char) := do
  let (units, rest) ← readUnits text
  pure (String.ofList (joinUnits units), rest)

/-- Reads one or more digits. -/
def readDigits (text : List Char) : Option (List Nat × List Char) :=
  let digits := text.takeWhile Char.isDigit
  if digits.isEmpty then none
  else some (digits.map fun c => c.toNat - 48, text.drop digits.length)

/-- Reads the digits after a decimal point, if there is a point. -/
def readFraction : List Char → Option (Option (List Nat) × List Char)
  | '.' :: rest => (readDigits rest).map fun (digits, rest) => (some digits, rest)
  | rest => some (none, rest)

/-- Reads the signed digits of an exponent. -/
def readSignedDigits : List Char → Option (Int × List Char)
  | '-' :: rest =>
      (readDigits rest).map fun (digits, rest) => (- Int.ofNat (Text.ofDigits 10 digits), rest)
  | '+' :: rest =>
      (readDigits rest).map fun (digits, rest) => (Int.ofNat (Text.ofDigits 10 digits), rest)
  | rest =>
      (readDigits rest).map fun (digits, rest) => (Int.ofNat (Text.ofDigits 10 digits), rest)

/-- Reads an exponent, if there is one. -/
def readExponent : List Char → Option (Option Int × List Char)
  | c :: rest =>
      if c == 'e' || c == 'E' then
        (readSignedDigits rest).map fun (exponent, rest) => (some exponent, rest)
      else some (none, c :: rest)
  | [] => some (none, [])

/-- The number with the given parts. -/
def numberValue (negative : Bool) (whole : List Nat) (fraction : Option (List Nat))
    (exponent : Option Int) : Value :=
  match fraction, exponent with
  | none, none =>
      let magnitude := Int.ofNat (Text.ofDigits 10 whole)
      .integer (if negative then - magnitude else magnitude)
  | _, _ =>
      let digits := fraction.getD []
      .float (.ofDecimal negative (Text.ofDigits 10 (whole ++ digits))
        (exponent.getD 0 - digits.length))

/-- Reads a number after its sign; a whole part of several digits does not start with zero. -/
def readUnsigned (negative : Bool) (text : List Char) : Option (Value × List Char) := do
  let (whole, rest) ← readDigits text
  if whole.head? == some 0 && 1 < whole.length then none
  else
    let (fraction, rest) ← readFraction rest
    let (exponent, rest) ← readExponent rest
    pure (numberValue negative whole fraction exponent, rest)

/-- Reads a number. -/
def readNumber : List Char → Option (Value × List Char)
  | '-' :: rest => readUnsigned true rest
  | rest => readUnsigned false rest

/-- Reads a word of the language. -/
def readWord (word : String) (value : Value) (text : List Char) : Option (Value × List Char) :=
  if word.toList.isPrefixOf text then some (value, text.drop word.length) else none

mutual
/-- Reads a value; `fuel` bounds the depth and number of parts. -/
def readValue : Nat → List Char → Option (Value × List Char)
  | 0, _ => none
  | fuel + 1, text =>
      match skipBlanks text with
      | '"' :: rest => (readString rest).map fun (s, rest) => (.string s, rest)
      | '[' :: rest =>
          match skipBlanks rest with
          | ']' :: rest => some (.array [], rest)
          | rest => (readItems fuel rest).map fun (items, rest) => (.array items, rest)
      | '{' :: rest =>
          match skipBlanks rest with
          | '}' :: rest => some (.table [], rest)
          | rest => (readEntries fuel [] rest).map fun (entries, rest) => (.table entries, rest)
      | 't' :: rest => readWord "rue" (.bool true) rest
      | 'f' :: rest => readWord "alse" (.bool false) rest
      | 'n' :: rest => readWord "ull" .null rest
      | rest => readNumber rest

/-- Reads the items of an array up to its bracket. -/
def readItems : Nat → List Char → Option (List Value × List Char)
  | 0, _ => none
  | fuel + 1, text => do
      let (item, rest) ← readValue fuel text
      match skipBlanks rest with
      | ',' :: rest =>
          let (items, rest) ← readItems fuel rest
          pure (item :: items, rest)
      | ']' :: rest => pure ([item], rest)
      | _ => none

/-- Reads the entries of a table up to its brace, after those already read. -/
def readEntries : Nat → Table → List Char → Option (Table × List Char)
  | 0, _, _ => none
  | fuel + 1, entries, text =>
      match skipBlanks text with
      | '"' :: rest => do
          let (key, rest) ← readString rest
          match skipBlanks rest with
          | ':' :: rest =>
              let (value, rest) ← readValue fuel rest
              let entries := Table.put key value entries
              match skipBlanks rest with
              | ',' :: rest => readEntries fuel entries rest
              | '}' :: rest => pure (entries, rest)
              | _ => none
          | _ => none
      | _ => none
end

/-- The value of a JSON document. -/
def parse? (text : String) : Option Value :=
  let chars := text.toList
  match readValue (chars.length + 1) chars with
  | some (value, rest) => if (skipBlanks rest).isEmpty then some value else none
  | none => none

end ChannelLint.Json
