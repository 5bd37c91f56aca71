/-!
# UTF-8

Decoding bytes as UTF-8. An ill-formed place is a maximal run of bytes that starts like a
character and cannot be continued to one, or a single byte that starts none. `decodeLossy` puts one
replacement character there, `decodeStrict` reports the first one. `unifyNewlines` turns every line
ending into a line feed.
-/

namespace ChannelLint.Text

/-- Why a place of a byte sequence is not UTF-8. -/
inductive Utf8Cause where
  /-- The byte starts no character. -/
  | invalidStart
  /-- The byte after the place does not continue the character. -/
  | invalidContinuation
  /-- The bytes end inside a character. -/
  | unexpectedEnd
  deriving DecidableEq, Repr

/-- The wording of a cause. -/
def Utf8Cause.message : Utf8Cause → String
  | invalidStart => "invalid start byte"
  | invalidContinuation => "invalid continuation byte"
  | unexpectedEnd => "unexpected end of data"

/-- An ill-formed place: its bytes stand at `start`, `length` of them, and `firstByte` is the
first. -/
structure Utf8Error where
  /-- The offset of the first byte. -/
  start : Nat
  /-- The number of bytes. -/
  length : Nat
  /-- The first byte. -/
  firstByte : Nat
  /-- Why the place is ill-formed. -/
  cause : Utf8Cause
  deriving DecidableEq, Repr

/-- What a lead byte promises: the bits it carries, how many bytes follow, and the bounds of the
first of them. -/
structure Utf8Lead where
  /-- The leading bits of the code point. -/
  bits : Nat
  /-- The number of continuation bytes. -/
  more : Nat
  /-- The least first continuation byte. -/
  low : Nat
  /-- The greatest first continuation byte. -/
  high : Nat

/-- What the byte promises as the first of a character, if it may be one. -/
def utf8Lead? (byte : Nat) : Option Utf8Lead :=
  if byte < 0x80 then some ⟨byte, 0, 0x80, 0xbf⟩
  else if 0xc2 ≤ byte && byte ≤ 0xdf then some ⟨byte - 0xc0, 1, 0x80, 0xbf⟩
  else if byte == 0xe0 then some ⟨0, 2, 0xa0, 0xbf⟩
  else if byte == 0xed then some ⟨0xd, 2, 0x80, 0x9f⟩
  else if 0xe1 ≤ byte && byte ≤ 0xef then some ⟨byte - 0xe0, 2, 0x80, 0xbf⟩
  else if byte == 0xf0 then some ⟨0, 3, 0x90, 0xbf⟩
  else if 0xf1 ≤ byte && byte ≤ 0xf3 then some ⟨byte - 0xf0, 3, 0x80, 0xbf⟩
  else if byte == 0xf4 then some ⟨4, 3, 0x80, 0x8f⟩
  else none

/-- A decoded piece of the bytes. -/
inductive Utf8Piece where
  /-- A character. -/
  | char (c : Char)
  /-- An ill-formed place. -/
  | bad (error : Utf8Error)
  deriving DecidableEq, Repr

/-- A character whose last bytes are still owed. -/
structure Utf8Open where
  /-- The offset of its first byte. -/
  start : Nat
  /-- Its first byte. -/
  firstByte : Nat
  /-- The number of bytes read. -/
  length : Nat
  /-- The bits read. -/
  bits : Nat
  /-- The number of bytes still owed. -/
  more : Nat
  /-- The least next byte. -/
  low : Nat
  /-- The greatest next byte. -/
  high : Nat

/-- The ill-formed place that an unfinished character makes. -/
def Utf8Open.error (pending : Utf8Open) (cause : Utf8Cause) : Utf8Error :=
  ⟨pending.start, pending.length, pending.firstByte, cause⟩

/-- Reads a byte between characters: the pieces it completes and the character it opens. -/
def utf8First (offset : Nat) (byte : Nat) : List Utf8Piece × Option Utf8Open :=
  match utf8Lead? byte with
  | none => ([.bad ⟨offset, 1, byte, .invalidStart⟩], none)
  | some lead =>
      if lead.more == 0 then ([.char (Char.ofNat lead.bits)], none)
      else ([], some ⟨offset, byte, 1, lead.bits, lead.more, lead.low, lead.high⟩)

/-- Reads a byte inside a character: one that does not continue it ends an ill-formed place and is
read again as a first byte. -/
def utf8Next (pending : Utf8Open) (offset : Nat) (byte : Nat) : List Utf8Piece × Option Utf8Open :=
  if pending.low ≤ byte && byte ≤ pending.high then
    let bits := pending.bits * 64 + (byte - 0x80)
    if pending.more == 1 then ([.char (Char.ofNat bits)], none)
    else
      ([], some { pending with
        length := pending.length + 1, bits := bits, more := pending.more - 1
        low := 0x80, high := 0xbf })
  else
    let (pieces, opened) := utf8First offset byte
    (.bad (pending.error .invalidContinuation) :: pieces, opened)

/-- The pieces of the bytes from the given offset on. -/
def utf8Pieces (offset : Nat) (pending : Option Utf8Open) : List UInt8 → List Utf8Piece
  | [] =>
      match pending with
      | none => []
      | some opened => [.bad (opened.error .unexpectedEnd)]
  | byte :: rest =>
      let (pieces, opened) :=
        match pending with
        | none => utf8First offset byte.toNat
        | some opened => utf8Next opened offset byte.toNat
      pieces ++ utf8Pieces (offset + 1) opened rest

/-- The bytes decoded, with one replacement character for each ill-formed place. -/
def decodeLossy (bytes : List UInt8) : List Char :=
  (utf8Pieces 0 none bytes).map fun
    | .char c => c
    | .bad _ => Char.ofNat 0xfffd

/-- The characters of the pieces, or the first ill-formed place. -/
def wellFormed : List Utf8Piece → Except Utf8Error (List Char)
  | [] => .ok []
  | .char c :: rest => (wellFormed rest).map (c :: ·)
  | .bad error :: _ => .error error

/-- The bytes decoded, or their first ill-formed place. -/
def decodeStrict (bytes : List UInt8) : Except Utf8Error (List Char) :=
  wellFormed (utf8Pieces 0 none bytes)

/-- Every carriage return with the line feed after it, and every lone one, becomes a line feed. -/
def unifyNewlines : List Char → List Char
  | [] => []
  | '\r' :: '\n' :: rest => '\n' :: unifyNewlines rest
  | c :: rest => (if c == '\r' then '\n' else c) :: unifyNewlines rest

/-- The bytes of a text in UTF-8. -/
def encodeUtf8 (text : String) : List UInt8 :=
  text.toUTF8.toList

/-- The wording of a decoding error. -/
def Utf8Error.message (error : Utf8Error) : String :=
  if error.length == 1 then
    let digits := Nat.toDigits 16 error.firstByte
    let byte := String.ofList (List.replicate (2 - digits.length) '0' ++ digits)
    let start := error.start
    let reason := error.cause.message
    s!"'utf-8' codec can't decode byte 0x{byte} in position {start}: {reason}"
  else
    let start := error.start
    let last := error.start + error.length - 1
    let reason := error.cause.message
    s!"'utf-8' codec can't decode bytes in position {start}-{last}: {reason}"

end ChannelLint.Text
