import ChannelLint.Indentation.Markup
import ChannelLint.Indentation.Script

/-!
# Indentation

The block depth of every line of a file, and the lines whose leading blanks do not agree with it.
The depth machine reads one line at a time and does not depend on how indentation is configured: a
step gives the state after the line and the depth, if any, at which the line should stand.
-/

namespace ChannelLint

/-- The character of an indentation level. -/
inductive IndentCharacter where
  | space
  | tab
  deriving DecidableEq, Repr

namespace IndentCharacter

/-- The name of the character. -/
def name : IndentCharacter → String
  | space => "space"
  | tab => "tab"

/-- The character itself. -/
def char : IndentCharacter → Char
  | space => ' '
  | tab => '\t'

end IndentCharacter

/-- How lines are indented. -/
structure IndentConfig where
  /-- The character that indentation is made of. -/
  character : IndentCharacter
  /-- The number of characters of a level. -/
  count : Int
  deriving DecidableEq, Repr

/-- What the lines read so far say about the next one. -/
structure IndentState where
  /-- The number of open blocks or elements. -/
  depth : Nat := 0
  /-- Whether the last script line opened a block. -/
  pendingOpen : Bool := false
  /-- Whether a markup tag is unfinished. -/
  inTag : Bool := false
  /-- Whether character data is open. -/
  inData : Bool := false
  /-- Whether the last line ended inside a comment. -/
  inComment : Bool := false
  deriving DecidableEq, Repr

/-- A line read by the machine. -/
structure IndentStep where
  /-- The state after the line. -/
  next : IndentState
  /-- The depth at which the line should stand; `none` when it is not checked. -/
  checked : Option Nat
  deriving DecidableEq, Repr

namespace IndentState

/-- The depth changed by the given number, never below zero. -/
def shift (depth : Nat) (change : Int) : Nat :=
  (depth + change).toNat

/-- Reads a script line. A line that opens a block makes the next one deeper; a line that closes
one is itself less deep. -/
def stepScript (state : IndentState) (line : List Char) : IndentStep :=
  let code := Script.codeOf line
  let opened := if state.pendingOpen then state.depth + 1 else state.depth
  let depth := if Script.closes code then opened - 1 else opened
  { next := { state with depth := depth, pendingOpen := Script.opens code }
    checked := some depth }

/-- The state after a line that is passed over except for the tags of its tail. -/
def passTail (state : IndentState) (tail : List Char) : IndentStep :=
  { next := { state with depth := shift state.depth (Markup.balance tail) }
    checked := none }

/-- Reads the code of a checked markup line. -/
def stepTags (state : IndentState) (body : List Char) : IndentStep :=
  let trimmed := Text.trimStart body
  let leadingClose := ['<', '/'].isPrefixOf trimmed
  let endsTag := state.inTag && (['/', '>'].isPrefixOf trimmed || ['>'].isPrefixOf trimmed)
  -- a lone end of a tag lines up with the tag
  let depth := if endsTag then state.depth - 1 else state.depth
  let opened : Int := if endsTag && ['>'].isPrefixOf trimmed then 1 else 0
  let inTag := state.inTag && !endsTag
  let body := if endsTag then ((Text.splitOnce ['>'] trimmed).map Prod.snd).getD [] else body
  let depth := if leadingClose then depth - 1 else depth
  let inData := Text.occursIn Markup.dataOpen body && !Text.occursIn Markup.dataClose body
  let body :=
    if inData then ((Text.splitOnce Markup.dataOpen body).map Prod.fst).getD body else body
  let change := opened +
    (if leadingClose then Markup.balanceAfterLeading body else Markup.balance body)
  let (inTag, change) :=
    if inTag then
      -- attribute lines stand one level deeper than their tag
      if ['>', '/'].isPrefixOf (Text.trimEnd body).reverse then (false, change - 1)
      else (!body.contains '>', change)
    else if Markup.endsInTag body then (true, change + 1)
    else (false, change)
  { next := { state with
      depth := shift depth change
      inTag := inTag
      inData := state.inData || inData }
    checked := some depth }

/-- Reads a markup line; `inComment` says that the line ends inside a comment. -/
def stepMarkup (state : IndentState) (line : List Char) (inComment : Bool) : IndentStep :=
  let body := Text.dropEndWhile (fun c => c == '\r' || c == '\n') line
  let here := { state with inComment := inComment }
  if state.inComment then
    match Text.splitOnce Comment.closeMark body with
    | some (_, tail) =>
        if inComment then ⟨here, none⟩ else here.passTail (Comment.dropInline false tail)
    | none => ⟨here, none⟩
  else if state.inData then
    match Text.splitOnce Markup.dataClose body with
    | some (_, tail) => { here with inData := false }.passTail tail
    | none => ⟨here, none⟩
  else if Markup.isDeclaration body then ⟨here, none⟩
  else
    let code := Comment.dropInline false body
    if inComment then
      let code := ((Text.splitOnce Comment.openMark code).map Prod.fst).getD code
      if Text.isBlankText code then ⟨here, none⟩ else here.stepTags code
    else here.stepTags code

/-- Reads a line of the given dialect. -/
def step (dialect : Dialect) (state : IndentState) (line : List Char) (inComment : Bool) :
    IndentStep :=
  match dialect with
  | .script => state.stepScript line
  | .markup => state.stepMarkup line inComment
  | .plain => ⟨state, none⟩

end IndentState

namespace Indentation

/-- Reads lines one after the other, each with whether it ends inside a comment. -/
def run (dialect : Dialect) (state : IndentState) : List (List Char × Bool) → List IndentStep
  | [] => []
  | (line, inComment) :: rest =>
      let step := state.step dialect line inComment
      step :: run dialect step.next rest

/-- The leading spaces and tabs of a line. -/
def leading (line : List Char) : List Char :=
  line.takeWhile fun c => c == ' ' || c == '\t'

/-- The length of the indentation at a depth. -/
def expectedLength (config : IndentConfig) (depth : Nat) : Nat :=
  (depth * config.count).toNat

/-- Whether the leading blanks are the indentation at a depth. -/
def agrees (config : IndentConfig) (line : List Char) (depth : Nat) : Bool :=
  (leading line).length == expectedLength config depth
    && (leading line).all (· == config.character.char)

/-- Whether the line has something to indent and should stand at the given depth, if one is
given, but does not. -/
def isFlagged (config : IndentConfig) (line : List Char) (checked : Option Nat) : Bool :=
  match checked with
  | some depth => !Text.isBlankText line && !agrees config line depth
  | none => false

/-- The longest indentation that can be spelled out. -/
def maxLength : Nat := Nat.pow 2 63 - 1

/-- Whether the line should stand at an indentation too long to be spelled out. -/
def isTooLong (config : IndentConfig) (line : List Char) (checked : Option Nat) : Bool :=
  match checked with
  | some depth => !Text.isBlankText line && maxLength < expectedLength config depth
  | none => false

/-- The ordinals, counted from `first`, of the flagged lines. -/
def flaggedFrom (config : IndentConfig) (first : Nat) :
    List (List Char × IndentStep) → List Nat
  | [] => []
  | (line, step) :: rest =>
      if isFlagged config line step.checked then first :: flaggedFrom config (first + 1) rest
      else flaggedFrom config (first + 1) rest

end Indentation

end ChannelLint
