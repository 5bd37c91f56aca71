import ChannelLint.Pattern.Error
import ChannelLint.Pattern.Syntax

/-!
# Pattern tokens and the reading state

A pattern is read as a sequence of tokens: single characters, and characters after a backslash. A
backslash at the very end of the pattern is a fault that shows as soon as the token before it has
been taken, because the reader always looks one token ahead.
-/

namespace ChannelLint.Pattern

/-- A character of the pattern, possibly after a backslash. -/
structure Token where
  /-- The character. -/
  char : Char
  /-- Whether a backslash stands before it. -/
  escaped : Bool
  /-- The position of the token in the pattern. -/
  position : Nat
  deriving DecidableEq, Repr

/-- The text of a token. -/
def Token.text (token : Token) : List Char :=
  if token.escaped then ['\\', token.char] else [token.char]

/-- Whether the token is the given character without a backslash. -/
def Token.is (token : Token) (c : Char) : Bool :=
  !token.escaped && token.char == c

/-- Whether the token is a character without a backslash that satisfies the test. -/
def Token.satisfies (token : Token) (test : Char → Bool) : Bool :=
  !token.escaped && test token.char

/-- The tokens of a text that starts at the given position, and whether a lone backslash is left at
its end. -/
def tokenize (position : Nat) : List Char → List Token × Bool
  | [] => ([], false)
  | ['\\'] => ([], true)
  | '\\' :: c :: rest =>
      let (tokens, dangling) := tokenize (position + 2) rest
      (⟨c, true, position⟩ :: tokens, dangling)
  | c :: rest =>
      let (tokens, dangling) := tokenize (position + 1) rest
      (⟨c, false, position⟩ :: tokens, dangling)

/-- The state of reading a pattern. -/
structure Reading where
  /-- The tokens that have not been taken. -/
  tokens : List Token
  /-- Whether a lone backslash follows the last token. -/
  dangling : Bool
  /-- The length of the pattern. -/
  length : Nat
  /-- The options under which the pattern is read. -/
  given : Flags := {}
  /-- The options that the pattern has turned on for all of itself. -/
  flags : Flags := {}
  /-- The named groups, in order of appearance. -/
  names : List (String × Nat) := []
  /-- The width of each group that has been closed; the first entry stands for the whole
  pattern. -/
  widths : Array (Option Width) := #[none]
  /-- The number of groups before the look behind that is being read, if one is. -/
  lookBehindGroups : Option Nat := none
  /-- The groups that conditionals name by number, with the position of the first use. -/
  references : List (Nat × Nat) := []

/-- The options that hold for all of the pattern. -/
def Reading.options (s : Reading) : Flags :=
  s.given.union s.flags

/-- A step of reading a pattern. -/
abbrev Reader := StateT Reading (Except PatternError)

namespace Reader

/-- The position of the next token, or the length of the pattern. -/
def tell : Reader Nat := do
  let s ← get
  pure ((s.tokens.head?.map Token.position).getD s.length)

/-- Fails for the given cause, `offset` characters before the next token. -/
def fail {α : Type} (cause : Cause) (offset : Nat) : Reader α := do
  let position ← tell
  throw (.malformed cause (some (position - offset)))

/-- Fails for the given cause at a position. -/
def failAt {α : Type} (cause : Cause) (position : Nat) : Reader α :=
  throw (.malformed cause (some position))

/-- Fails if the next thing is the lone backslash at the end of the pattern. -/
def checkDangling : Reader Unit := do
  let s ← get
  if s.dangling && s.tokens.isEmpty then failAt .trailingBackslash (s.length - 1)

/-- The next token, which is not taken. -/
def peek : Reader (Option Token) := do
  pure (← get).tokens.head?

/-- Takes the next token. -/
def next : Reader (Option Token) := do
  let s ← get
  set { s with tokens := s.tokens.tail }
  checkDangling
  pure s.tokens.head?

/-- Takes the next token if it is the given character. -/
def accept (c : Char) : Reader Bool := do
  match ← peek with
  | some token =>
      if token.is c then
        let _ ← next
        pure true
      else pure false
  | none => pure false

/-- Takes characters that satisfy the test, at most `limit` of them. -/
def takeWhile (test : Char → Bool) : Nat → Reader (List Char)
  | 0 => pure []
  | limit + 1 => do
      match ← peek with
      | some token =>
          if token.satisfies test then
            let _ ← next
            let rest ← takeWhile test limit
            pure (token.char :: rest)
          else pure []
      | none => pure []

/-- Passes over tokens up to the given character, which is taken too; says whether it was
found. -/
def skipPast (c : Char) : Reader Bool := do
  let s ← get
  set { s with tokens := s.tokens.dropWhile fun token => !token.is c }
  checkDangling
  match ← next with
  | some _ => pure true
  | none => pure false

/-- Takes a name up to its terminator; `what` says in a message what is missing. -/
def takeName (terminator : Char) (what : String) : Reader (List Char) := do
  let s ← get
  let name := (s.tokens.takeWhile fun token => !token.is terminator).flatMap Token.text
  let found ← skipPast terminator
  if !found then
    if name.isEmpty then fail (.missingName what) 0
    else fail (.unterminatedName terminator) name.length
  else if name.isEmpty then fail (.missingName what) 1
  else pure name

/-- The number of groups opened so far, the whole pattern included. -/
def groupCount : Reader Nat := do
  pure (← get).widths.size

/-- Whether the group has been opened and closed. -/
def isClosed (index : Nat) : Reader Bool := do
  pure (((← get).widths[index]?.getD none).isSome)

/-- The width of a group; one that is still open counts as empty. -/
def groupWidth (widths : Array (Option Width)) (index : Nat) : Width :=
  (widths[index]?.getD none).getD ⟨0, 0⟩

/-- The width of a part. -/
def widthOf (node : Node) : Reader Width := do
  pure (node.width (groupWidth (← get).widths))

/-- Opens a group, with a name if one is given. -/
def openGroup (name : Option (List Char)) : Reader Nat := do
  let s ← get
  let index := s.widths.size
  match name with
  | none => set { s with widths := s.widths.push none }
  | some chars =>
      let label := String.ofList chars
      match s.names.find? (·.1 == label) with
      | some (_, previous) => fail (.groupRedefined label index previous) (chars.length + 1)
      | none =>
          set { s with widths := s.widths.push none, names := s.names ++ [(label, index)] }
  pure index

/-- Closes a group around the given part. -/
def closeGroup (index : Nat) (body : Node) : Reader Unit := do
  let width ← widthOf body
  modify fun s => { s with widths := s.widths.setIfInBounds index (some width) }

/-- Inside a look behind only groups closed before it may be named. -/
def checkLookBehind (index : Nat) : Reader Unit := do
  match (← get).lookBehindGroups with
  | none => pure ()
  | some before =>
      if !(← isClosed index) then fail .openGroup 0
      else if before ≤ index then fail .lookBehindGroup 0

end Reader

end ChannelLint.Pattern
