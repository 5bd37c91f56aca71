/-!
# Wildcard patterns

File name patterns in which `*` stands for any characters, `?` for one character and brackets for
one of a class. Wildcards match slashes too. A class that starts with an exclamation mark accepts
what it does not list; a bracket that is never closed is an ordinary character.
-/

namespace ChannelLint.Glob

/-- What one character of a name must satisfy. -/
inductive Piece where
  /-- The given character. -/
  | char (c : Char)
  /-- Any character. -/
  | any
  /-- A character in one of the ranges, or in none. -/
  | oneOf (negated : Bool) (ranges : List (Char × Char))
  deriving DecidableEq, Repr

/-- Whether the piece accepts the character. -/
def Piece.accepts : Piece → Char → Bool
  | .char d, c => c == d
  | .any, _ => true
  | .oneOf negated ranges, c => (ranges.any fun r => r.1 ≤ c && c ≤ r.2) != negated

/-! ## Reading patterns -/

/-- The text before the first dash at or after the given place, and the text after that dash. -/
def splitDash : Nat → List Char → Option (List Char × List Char)
  | _, [] => none
  | 0, c :: rest =>
      if c == '-' then some ([], rest)
      else (splitDash 0 rest).map fun (before, after) => (c :: before, after)
  | skip + 1, c :: rest => (splitDash skip rest).map fun (before, after) => (c :: before, after)

/-- The parts of a class between the dashes that make ranges: one stands after at least `least`
characters, further ones after at least two. A dash that ends the class belongs to the last part.
`fuel` bounds the number of parts. -/
def chunks : Nat → Nat → List Char → List (List Char)
  | 0, _, text => [text]
  | fuel + 1, least, text =>
      match splitDash least text with
      | none => [text]
      | some (before, []) => [before ++ ['-']]
      | some (before, after) => before :: chunks fuel 2 after

/-- Drops the ranges that end before they start, with both their ends. -/
def dropEmptyRanges : List (List Char) → List (List Char)
  | [] => []
  | chunk :: rest =>
      match dropEmptyRanges rest with
      | [] => [chunk]
      | next :: more =>
          match chunk.getLast?, next.head? with
          | some low, some high =>
              if high < low then (chunk.dropLast ++ next.tail) :: more else chunk :: next :: more
          | _, _ => chunk :: next :: more

/-- The characters as ranges of one. -/
def singles (chars : List Char) : List (Char × Char) :=
  chars.map fun c => (c, c)

/-- The ranges of a class: one from the last character of each part to the first of the next, and
all other characters alone. `from` is the start of a range that the first part ends. -/
def rangesFrom (low : Option Char) : List (List Char) → List (Char × Char)
  | [] => []
  | chunk :: rest =>
      let (first, own) := match low, chunk with
        | some a, b :: more => ([(a, b)], more)
        | _, _ => ([], chunk)
      match rest with
      | [] => first ++ singles own
      | _ :: _ => first ++ singles own.dropLast ++ rangesFrom own.getLast? rest

/-- The piece of a class, given the text between its brackets. -/
def classPiece (text : List Char) : Piece :=
  let (negated, content) := match text with
    | '!' :: rest => (true, rest)
    | _ => (false, text)
  .oneOf negated (rangesFrom none (dropEmptyRanges (chunks content.length 1 content)))

/-- The text of a class after its bracket and the text after it. A closing bracket right at the
start, or right after the exclamation mark, belongs to the class. -/
def takeClass (text : List Char) : Option (List Char × List Char) :=
  let fixed := match text with
    | '!' :: ']' :: _ => 2
    | '!' :: _ => 1
    | ']' :: _ => 1
    | _ => 0
  let body := (text.drop fixed).takeWhile (· != ']')
  match text.drop (fixed + body.length) with
  | ']' :: rest => some (text.take fixed ++ body, rest)
  | _ => none

/-- A pattern: the pieces between its stars. There is one part more than there are stars. -/
abbrev Pattern := List (List Piece)

/-- Puts a piece before the first part. -/
def consPiece (piece : Piece) : Pattern → Pattern
  | [] => [[piece]]
  | part :: rest => (piece :: part) :: rest

/-- Reads a pattern; `fuel` bounds its length. -/
def parseWith : Nat → List Char → Pattern
  | 0, _ => [[]]
  | _, [] => [[]]
  | fuel + 1, c :: rest =>
      if c == '*' then [] :: parseWith fuel rest
      else if c == '?' then consPiece .any (parseWith fuel rest)
      else if c == '[' then
        match takeClass rest with
        | some (text, after) => consPiece (classPiece text) (parseWith fuel after)
        | none => consPiece (.char c) (parseWith fuel rest)
      else consPiece (.char c) (parseWith fuel rest)

/-- Reads a pattern. -/
def parse (text : List Char) : Pattern :=
  parseWith (text.length + 1) text

/-! ## Matching -/

/-- The text after a part at its start. -/
def dropPart? : List Piece → List Char → Option (List Char)
  | [], text => some text
  | _ :: _, [] => none
  | piece :: part, c :: text => if piece.accepts c then dropPart? part text else none

/-- The text after the first occurrence of a part. -/
def findPart? (part : List Piece) : List Char → Option (List Char)
  | [] => dropPart? part []
  | c :: rest =>
      match dropPart? part (c :: rest) with
      | some after => some after
      | none => findPart? part rest

/-- Whether the text ends with a part. -/
def endsWith (part : List Piece) (text : List Char) : Bool :=
  part.length ≤ text.length && dropPart? part (text.drop (text.length - part.length)) == some []

/-- Whether the text matches parts with a star before each of them. It is enough to take the first
occurrence of each but the last, which must stand at the end. -/
def matchesAfterStar : Pattern → List Char → Bool
  | [], _ => true
  | [last], text => endsWith last text
  | part :: rest, text =>
      match findPart? part text with
      | some after => matchesAfterStar rest after
      | none => false

/-- Whether the text matches the pattern. -/
def Pattern.matches : Pattern → List Char → Bool
  | [], text => text.isEmpty
  | [part], text => dropPart? part text == some []
  | part :: rest, text =>
      match dropPart? part text with
      | some after => matchesAfterStar rest after
      | none => false

end ChannelLint.Glob
