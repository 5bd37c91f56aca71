import ChannelLint.Error
import ChannelLint.Text.Integer
import ChannelLint.Text.Lines

/-!
# Scalars of configuration documents

Strings, numbers, dates and times of TOML 1.0. Every reader takes the text from some place on and
gives a value with the text after it, or a fault that says how much text was left where it stands.
-/

namespace ChannelLint.Toml

/-- Why and where reading stops. -/
inductive Fault where
  /-- The document is malformed, `remaining` characters before its end. -/
  | malformed (cause : DocumentCause) (remaining : Nat)
  /-- A numeral has too many digits. -/
  | numeralTooLong (digits : Nat)
  deriving DecidableEq, Repr

/-- Fails for a cause in front of the given text. -/
def fail {α : Type} (cause : DocumentCause) (rest : List Char) : Except Fault α :=
  .error (.malformed cause rest.length)

/-! ## Characters -/

/-- Whether the character is a blank within a line. -/
def isSpace (c : Char) : Bool :=
  c == ' ' || c == '\t'

/-- Whether the character is a blank or a line feed. -/
def isSpaceOrFeed (c : Char) : Bool :=
  isSpace c || c == '\n'

/-- Whether the character is a control that strings of one line and comments may not hold. -/
def isIllegal (c : Char) : Bool :=
  (c.toNat < 32 || c.toNat == 127) && c != '\t'

/-- Whether the character is a control that strings of several lines may not hold. -/
def isIllegalInLines (c : Char) : Bool :=
  isIllegal c && c != '\n'

/-- Whether a bare key may hold the character. -/
def isBareKeyChar (c : Char) : Bool :=
  c.isAlphanum || c == '-' || c == '_'

/-- The single quote. -/
def singleQuote : Char := Char.ofNat 39

/-- The text without leading blanks. -/
def skipSpaces (text : List Char) : List Char :=
  text.dropWhile isSpace

/-- The text up to a mark, and the text from the mark on; fails at a character that must not stand
before it. Without a mark everything is taken, if that is allowed. -/
def takeUntil (mark : List Char) (illegal : Char → Bool) (needed : Bool) (text : List Char) :
    Except Fault (List Char × List Char) :=
  let (before, found) := match Text.splitOnce mark text with
    | some (before, _) => (before, true)
    | none => (text, false)
  if !found && needed then fail (.expectedMark (String.ofList mark)) []
  else
    match before.find? illegal with
    | some c =>
        fail (.invalidCharacter c) (text.drop (before.takeWhile fun d => !illegal d).length)
    | none => .ok (before, text.drop before.length)

/-- The text after a comment, if one stands at its start. -/
def skipComment : List Char → Except Fault (List Char)
  | '#' :: rest => (takeUntil ['\n'] isIllegal false rest).map Prod.snd
  | rest => .ok rest

/-- The text after blanks, line feeds and comments; `fuel` bounds the comments. -/
def skipFiller : Nat → List Char → Except Fault (List Char)
  | 0, text => .ok text
  | fuel + 1, text => do
      let rest ← skipComment (text.dropWhile isSpaceOrFeed)
      if rest.length == text.length then pure rest else skipFiller fuel rest

/-! ## Strings -/

/-- Whether the character is a hexadecimal digit. -/
def isHex (c : Char) : Bool :=
  c.isDigit || ('a' ≤ c && c ≤ 'f') || ('A' ≤ c && c ≤ 'F')

/-- The value of a hexadecimal digit. -/
def hexValue (c : Char) : Nat :=
  if c.isDigit then c.toNat - 48 else if 'a' ≤ c then c.toNat - 87 else c.toNat - 55

/-- Reads a character by its code, of exactly `count` hexadecimal digits. -/
def readCode (count : Nat) (text : List Char) : Except Fault (List Char × List Char) :=
  let digits := text.take count
  if digits.length != count || !digits.all isHex then fail .invalidHex text
  else
    let code := Text.ofDigits 16 (digits.map hexValue)
    let rest := text.drop count
    if code ≤ 0xd7ff || (0xe000 ≤ code && code ≤ 0x10ffff) then .ok ([Char.ofNat code], rest)
    else fail .notScalar rest

/-- The character that a one-letter escape names. -/
def simpleEscape? : Char → Option Nat
  | 'b' => some 8
  | 't' => some 9
  | 'n' => some 10
  | 'f' => some 12
  | 'r' => some 13
  | '"' => some 34
  | '\\' => some 92
  | _ => none

/-- Reads an escape after its backslash. In a string of several lines a backslash before blanks
and a line feed takes away all blanks and line feeds that follow. -/
def readEscape (lines : Bool) (text : List Char) : Except Fault (List Char × List Char) :=
  match text with
  | [] => fail .unescapedBackslash []
  | c :: rest =>
      if lines && c == '\n' then .ok ([], rest.dropWhile isSpaceOrFeed)
      else if lines && isSpace c then
        match rest.dropWhile isSpace with
        | [] => .ok ([], [])
        | '\n' :: after => .ok ([], after.dropWhile isSpaceOrFeed)
        | after => fail .unescapedBackslash after
      else if c == 'u' then readCode 4 rest
      else if c == 'U' then readCode 8 rest
      else
        match simpleEscape? c with
        | some code => .ok ([Char.ofNat code], rest)
        | none => fail .unescapedBackslash rest

/-- Reads the rest of a string in double quotes, of one line or of several; `fuel` bounds its
length. -/
def readBasic (lines : Bool) : Nat → List Char → Except Fault (List Char × List Char)
  | 0, text => fail .unterminatedString text
  | _, [] => fail .unterminatedString []
  | fuel + 1, c :: rest =>
      if c == '"' then
        if !lines then .ok ([], rest)
        else
          match rest with
          | '"' :: '"' :: after => .ok ([], after)
          | _ => do
              let (more, after) ← readBasic lines fuel rest
              pure (c :: more, after)
      else if c == '\\' then do
        let (chars, after) ← readEscape lines rest
        let (more, after) ← readBasic lines fuel after
        pure (chars ++ more, after)
      else if (if lines then isIllegalInLines c else isIllegal c) then
        fail (.illegalCharacter c) (c :: rest)
      else do
        let (more, after) ← readBasic lines fuel rest
        pure (c :: more, after)

/-- Reads the rest of a string of one line in double quotes. -/
def readBasicLine (text : List Char) : Except Fault (List Char × List Char) :=
  readBasic false (text.length + 1) text

/-- Reads the rest of a string of one line in single quotes. -/
def readLiteralLine (text : List Char) : Except Fault (List Char × List Char) := do
  let (content, rest) ← takeUntil [singleQuote] isIllegal true text
  pure (content, rest.drop 1)

/-- The content of a string of several lines whose end may have up to two more quotes, which
belong to the content. -/
def withExtraQuotes (quote : Char) (content rest : List Char) : List Char × List Char :=
  let extra := ((rest.take 2).takeWhile (· == quote)).length
  (content ++ List.replicate extra quote, rest.drop extra)

/-- The text after a line feed at its start. -/
def skipFirstFeed : List Char → List Char
  | '\n' :: rest => rest
  | rest => rest

/-- Reads the rest of a string of several lines in double quotes. -/
def readBasicLines (text : List Char) : Except Fault (List Char × List Char) := do
  let text := skipFirstFeed text
  let (content, rest) ← readBasic true (text.length + 1) text
  pure (withExtraQuotes '"' content rest)

/-- Reads the rest of a string of several lines in single quotes. -/
def readLiteralLines (text : List Char) : Except Fault (List Char × List Char) := do
  let mark := [singleQuote, singleQuote, singleQuote]
  let (content, rest) ← takeUntil mark isIllegalInLines true (skipFirstFeed text)
  pure (withExtraQuotes singleQuote content (rest.drop 3))

/-! ## Numbers -/

/-- Digits with single underscores between them, and the text after them; the underscores are
dropped. The flag says that a digit stands right before the text. -/
def takeDigitsAfter (isDigit : Char → Bool) : Bool → List Char → List Char × List Char
  | _, [] => ([], [])
  | afterDigit, c :: rest =>
      if isDigit c then
        let (digits, after) := takeDigitsAfter isDigit true rest
        (c :: digits, after)
      else if afterDigit && c == '_' && rest.head?.any isDigit then
        takeDigitsAfter isDigit false rest
      else ([], c :: rest)

/-- Digits with single underscores between them, and the text after them. -/
def takeDigits (isDigit : Char → Bool) (text : List Char) : List Char × List Char :=
  takeDigitsAfter isDigit false text

/-- The base of a number after its leading zero. -/
def base? : Char → Option (Nat × (Char → Bool))
  | 'x' => some (16, isHex)
  | 'o' => some (8, fun c => '0' ≤ c && c ≤ '7')
  | 'b' => some (2, fun c => c == '0' || c == '1')
  | _ => none

/-- Reads a number with a base. -/
def readBased? : List Char → Option (Value × List Char)
  | '0' :: letter :: rest =>
      match base? letter with
      | some (base, isDigit) =>
          let (digits, after) := takeDigits isDigit rest
          if digits.isEmpty then none
          else some (.integer (Text.ofDigits base (digits.map hexValue)), after)
      | none => none
  | _ => none

/-- Reads the whole part of a number: a zero, or digits that do not start with one. -/
def takeWhole : List Char → List Char × List Char
  | '0' :: rest => (['0'], rest)
  | rest => takeDigits Char.isDigit rest

/-- Reads a fraction; there is none without a digit. -/
def takeFraction : List Char → Option (List Char × List Char)
  | '.' :: rest =>
      let (digits, after) := takeDigits Char.isDigit rest
      if digits.isEmpty then none else some (digits, after)
  | _ => none

/-- Reads an exponent; there is none without a digit. -/
def takeExponent : List Char → Option (Int × List Char)
  | c :: rest =>
      if c == 'e' || c == 'E' then
        let (negative, unsigned) := match rest with
          | '-' :: more => (true, more)
          | '+' :: more => (false, more)
          | more => (false, more)
        let (digits, after) := takeDigits Char.isDigit unsigned
        if digits.isEmpty then none
        else
          let size := Int.ofNat (Text.ofDigits 10 (digits.map hexValue))
          some (if negative then - size else size, after)
      else none
  | [] => none

/-- Reads a decimal number after its sign. -/
def readDecimal? (negative : Bool) (text : List Char) : Option (Except Fault (Value × List Char)) :=
  let (whole, rest) := takeWhole text
  if whole.isEmpty then none
  else
    let fraction := takeFraction rest
    let digits := (fraction.map Prod.fst).getD []
    let rest := (fraction.map Prod.snd).getD rest
    let exponent := takeExponent rest
    let after := (exponent.map Prod.snd).getD rest
    if fraction.isNone && exponent.isNone then
      if Text.maxNumeralDigits < whole.length then some (.error (.numeralTooLong whole.length))
      else
        let size := Int.ofNat (Text.ofDigits 10 (whole.map hexValue))
        some (.ok (.integer (if negative then - size else size), after))
    else
      let number := Text.ofDigits 10 ((whole ++ digits).map hexValue)
      let power := ((exponent.map Prod.fst).getD 0) - digits.length
      some (.ok (.float (.ofDecimal negative number power), after))

/-- Reads a number. -/
def readNumber? (text : List Char) : Option (Except Fault (Value × List Char)) :=
  match readBased? text with
  | some result => some (.ok result)
  | none =>
      match text with
      | '-' :: rest => readDecimal? true rest
      | '+' :: rest => readDecimal? false rest
      | rest => readDecimal? false rest

/-- Reads the name of a number that is not finite. -/
def readSpecial? (text : List Char) : Option (Value × List Char) :=
  let (negative, rest) := match text with
    | '-' :: more => (true, more)
    | '+' :: more => (false, more)
    | more => (false, more)
  match rest with
  | 'i' :: 'n' :: 'f' :: after => some (.float (.infinity negative), after)
  | 'n' :: 'a' :: 'n' :: after => some (.float .nan, after)
  | _ => none

/-! ## Dates and times -/

/-- The number that exactly `count` decimal digits spell. -/
def takeFixed? (count : Nat) (text : List Char) : Option (Nat × List Char) :=
  let digits := text.take count
  if digits.length == count && digits.all Char.isDigit then
    some (Text.ofDigits 10 (digits.map hexValue), text.drop count)
  else none

/-- A two-digit number within bounds. -/
def takePair? (low high : Nat) (text : List Char) : Option (Nat × List Char) :=
  match takeFixed? 2 text with
  | some (n, rest) => if low ≤ n && n ≤ high then some (n, rest) else none
  | none => none

/-- The text after a character. -/
def dropChar? (c : Char) : List Char → Option (List Char)
  | d :: rest => if d == c then some rest else none
  | [] => none

/-- Reads the fraction of a second, of which six digits count. -/
def takeMicroseconds (text : List Char) : Nat × List Char :=
  match text with
  | '.' :: rest =>
      let digits := rest.takeWhile Char.isDigit
      if digits.isEmpty then (0, text)
      else
        let six := digits.take 6
        let padded := six ++ List.replicate (6 - six.length) '0'
        (Text.ofDigits 10 (padded.map hexValue), rest.drop digits.length)
  | _ => (0, text)

/-- Reads a time of day. -/
def takeTime? (text : List Char) : Option (TimeOfDay × List Char) := do
  let (hour, rest) ← takePair? 0 23 text
  let (minute, rest) ← takePair? 0 59 (← dropChar? ':' rest)
  let (second, rest) ← takePair? 0 59 (← dropChar? ':' rest)
  let (microsecond, rest) := takeMicroseconds rest
  pure (⟨hour, minute, second, microsecond⟩, rest)

/-- Reads a date; whether the day exists is another matter. -/
def takeDate? (text : List Char) : Option (Date × List Char) := do
  let (year, rest) ← takeFixed? 4 text
  let (month, rest) ← takePair? 1 12 (← dropChar? '-' rest)
  let (day, rest) ← takePair? 1 31 (← dropChar? '-' rest)
  pure (⟨year, month, day⟩, rest)

/-- Reads an offset from universal time in minutes. -/
def takeOffset? : List Char → Option (Int × List Char)
  | c :: rest =>
      if c == 'Z' || c == 'z' then some (0, rest)
      else if c == '+' || c == '-' then do
        let (hour, rest) ← takePair? 0 23 rest
        let (minute, rest) ← takePair? 0 59 (← dropChar? ':' rest)
        let minutes := Int.ofNat (60 * hour + minute)
        pure (if c == '-' then - minutes else minutes, rest)
      else none
  | [] => none

/-- Reads the time of day after a date and a separator. -/
def takeTimePart? : List Char → Option (TimeOfDay × List Char)
  | c :: rest => if c == 'T' || c == 't' || c == ' ' then takeTime? rest else none
  | [] => none

/-- Reads a date, a time of day or both. -/
def readMoment? (text : List Char) : Option (Except Fault (Value × List Char)) :=
  match takeDate? text with
  | some (date, rest) =>
      if !date.isValid then some (fail .invalidDate text)
      else
        match takeTimePart? rest with
        | none => some (.ok (.moment (.date date), rest))
        | some (time, rest) =>
            match takeOffset? rest with
            | none => some (.ok (.moment (.dateTime date time none), rest))
            | some (offset, rest) =>
                some (.ok (.moment (.dateTime date time (some offset)), rest))
  | none => (takeTime? text).map fun (time, rest) => .ok (.moment (.time time), rest)

end ChannelLint.Toml
