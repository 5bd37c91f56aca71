import ChannelLint.Library
import ChannelLint.Pattern.Token
import ChannelLint.Text.Integer

/-!
# Reading patterns

`Regex.parse` reads the text of a pattern into its syntax tree, or says what is wrong and where. A
pattern is read under options, to which it may add its own: verbose patterns are read differently,
and some combinations are refused.
When a pattern has several faults the one that the reader meets first is reported; faults that only
the finished tree shows, such as a look behind of varying width, come last. Parts may be nested as
deep as the library has room for, both while they are read and in the finished tree.
-/

namespace ChannelLint.Pattern

open Reader

/-! ## Escapes -/

/-- Whether the character is an octal digit. -/
def isOctal (c : Char) : Bool :=
  '0' ≤ c && c ≤ '7'

/-- Whether the character is a hexadecimal digit. -/
def isHex (c : Char) : Bool :=
  c.isDigit || ('a' ≤ c && c ≤ 'f') || ('A' ≤ c && c ≤ 'F')

/-- The value of a hexadecimal digit. -/
def hexValue (c : Char) : Nat :=
  if c.isDigit then c.toNat - 48 else if 'a' ≤ c then c.toNat - 87 else c.toNat - 55

/-- The number that digits of a base spell. -/
def number (base : Nat) (digits : List Char) : Nat :=
  Text.ofDigits base (digits.map hexValue)

/-- The kind of characters that an escape names, and whether it names all others. -/
def categoryEscape? : Char → Option (Category × Bool)
  | 'd' => some (.digit, false)
  | 'D' => some (.digit, true)
  | 's' => some (.space, false)
  | 'S' => some (.space, true)
  | 'w' => some (.word, false)
  | 'W' => some (.word, true)
  | _ => none

/-- The anchor that an escape names. -/
def anchorEscape? : Char → Option Anchor
  | 'A' => some .textStart
  | 'Z' => some .textEnd
  | 'b' => some .boundary
  | 'B' => some .notBoundary
  | _ => none

/-- The code point that a one-letter escape names. -/
def simpleEscape? : Char → Option Nat
  | 'a' => some 7
  | 'b' => some 8
  | 'f' => some 12
  | 'n' => some 10
  | 'r' => some 13
  | 't' => some 9
  | 'v' => some 11
  | '\\' => some 92
  | _ => none

/-- Reads the rest of an escape of exactly `count` hexadecimal digits. -/
def hexEscape (letter : Char) (count : Nat) : Reader Nat := do
  let digits ← takeWhile isHex count
  let text := '\\' :: letter :: digits
  if digits.length != count then fail (.incompleteEscape (String.ofList text)) text.length
  else
    let code := number 16 digits
    if 0x10ffff < code then fail (.badEscape (String.ofList text)) text.length
    else pure code

/-- Reads the rest of an escape by character name. -/
def nameEscape [Library] : Reader Nat := do
  if !(← accept '{') then fail .missingBrace 0
  else
    let name ← takeName '}' "character name"
    match Library.namedCharacter? (String.ofList name) with
    | some c => pure c.toNat
    | none => fail (.unknownCharacterName (String.ofList name)) (name.length + 4)

/-- Reads the escapes that are the same inside and outside a class: code points by number and by
name, and characters that stand for themselves. -/
def commonEscape [Library] (c : Char) : Reader Nat := do
  if c == 'x' then hexEscape c 2
  else if c == 'u' then hexEscape c 4
  else if c == 'U' then hexEscape c 8
  else if c == 'N' then nameEscape
  else if c.isAlpha || c.isDigit then fail (.badEscape (String.ofList ['\\', c])) 2
  else pure c.toNat

/-- The code point of an escape of octal digits, if it is in range. -/
def octalCode (digits : List Char) : Reader Nat :=
  let code := number 8 digits
  if 0o377 < code then fail (.octalEscape (String.ofList ('\\' :: digits))) (digits.length + 1)
  else pure code

/-- Reads an escape inside a class. -/
def classEscape [Library] (c : Char) : Reader ClassItem := do
  match simpleEscape? c with
  | some code => pure (.code code)
  | none =>
      match categoryEscape? c with
      | some (kind, negated) => pure (.category kind negated)
      | none =>
          if isOctal c then
            let digits ← takeWhile isOctal 2
            pure (.code (← octalCode (c :: digits)))
          else pure (.code (← commonEscape c))

/-- Reads the reference to the group that the digits name. -/
def groupReference (digits : List Char) : Reader Node := do
  let index := number 10 digits
  if index < (← groupCount) then
    if !(← isClosed index) then fail .openGroup (digits.length + 1)
    else
      checkLookBehind index
      pure (.backref index)
  else fail (.invalidGroupReference index) digits.length

/-- Reads an escape that starts with a digit other than zero: three octal digits name a code point,
and anything else refers to a group. -/
def numberEscape (c : Char) : Reader Node := do
  let second ← takeWhile Char.isDigit 1
  match second with
  | [d] =>
      if isOctal c && isOctal d then
        let third ← takeWhile isOctal 1
        if third.isEmpty then groupReference [c, d]
        else pure (.code (← octalCode (c :: d :: third)))
      else groupReference [c, d]
  | _ => groupReference [c]

/-- Reads an escape outside a class. -/
def escape [Library] (c : Char) : Reader Node := do
  match categoryEscape? c with
  | some (kind, negated) => pure (.oneOf false [.category kind negated])
  | none =>
      match anchorEscape? c with
      | some anchor => pure (.anchor anchor)
      | none =>
          match simpleEscape? c with
          | some code => pure (.code code)
          | none =>
              if c == '0' then
                let digits ← takeWhile isOctal 2
                pure (.code (number 8 digits))
              else if c.isDigit then numberEscape c
              else pure (.code (← commonEscape c))

/-! ## Classes -/

/-- Reads one entry of a class from its token. -/
def classEntry [Library] (token : Token) : Reader ClassItem :=
  if token.escaped then classEscape token.char else pure (.code token.char.toNat)

/-- Reads the rest of a class that was opened at `start`, after the entries read so far, the last
one first; `fuel` bounds the number of entries. -/
def classItems [Library] (start : Nat) : Nat → List ClassItem → Reader (List ClassItem)
  | 0, _ => failAt .unterminatedSet start
  | fuel + 1, items => do
      match ← next with
      | none => failAt .unterminatedSet start
      | some this =>
          if this.is ']' && !items.isEmpty then pure items.reverse
          else
            let low ← classEntry this
            if !(← accept '-') then classItems start fuel (low :: items)
            else
              match ← next with
              | none => failAt .unterminatedSet start
              | some that =>
                  if that.is ']' then pure (items.reverse ++ [low, .code 45])
                  else
                    let high ← classEntry that
                    let text := this.text ++ '-' :: that.text
                    match low, high with
                    | .code a, .code b =>
                        if b < a then fail (.badRange (String.ofList text)) text.length
                        else classItems start fuel (.range a b :: items)
                    | _, _ => fail (.badRange (String.ofList text)) text.length

/-- Reads a class after its bracket. -/
def characterClass [Library] (fuel : Nat) : Reader Node := do
  let start := (← tell) - 1
  let negated ← accept '^'
  let items := (← classItems start fuel []).eraseDups
  match items with
  | [.code n] => pure (if negated then .notCode n else .code n)
  | _ => pure (.oneOf negated items)

/-! ## Repetition -/

/-- Repetition counts stay below this bound. -/
def repeatLimit : Nat := 4294967295

/-- The repetition count that digits spell. -/
def repeatCount (digits : List Char) : Reader Nat :=
  if Text.maxNumeralDigits < digits.length then throw (.numeralTooLong digits.length)
  else
    let count := number 10 digits
    if repeatLimit ≤ count then throw .repetitionTooLarge else pure count

/-- Reads the bounds of a repetition after its brace; `none` when the brace is an ordinary
character, in which case nothing is taken. -/
def braceBounds (fuel : Nat) : Reader (Option (Nat × Option Nat)) := do
  let saved ← get
  let here ← tell
  match ← peek with
  | some token =>
      if token.is '}' then pure none
      else
        let low ← takeWhile Char.isDigit fuel
        let comma ← accept ','
        let high ← if comma then takeWhile Char.isDigit fuel else pure low
        if !(← accept '}') then
          set saved
          pure none
        else
          let least ← if low.isEmpty then pure 0 else repeatCount low
          if high.isEmpty then pure (some (least, none))
          else
            let most ← repeatCount high
            if most < least then failAt .repeatBounds here
            else pure (some (least, some most))
  | none => pure none

/-- Reads the mark after a repetition that makes it reluctant or possessive. -/
def greedMark : Reader Greed := do
  if ← accept '?' then pure .reluctant
  else if ← accept '+' then pure .possessive
  else pure .greedy

/-- Repeats the last of the parts read so far, the last one first; `position` is where the
repetition mark stands. -/
def repeatLast (position : Nat) (bounds : Nat × Option Nat) (parts : List Node) :
    Reader (List Node) := do
  match parts with
  | [] | .anchor _ :: _ => failAt .nothingToRepeat position
  | .repeated _ _ _ _ :: _ => failAt .multipleRepeat position
  | item :: earlier =>
      let greed ← greedMark
      pure (.repeated bounds.1 bounds.2 greed item :: earlier)

/-! ## Options -/

/-- What a letter among the options stands for. -/
inductive FlagLetter where
  /-- An option. -/
  | flag (flag : Flag)
  /-- Locale-dependent matching, which texts do not have. -/
  | locale

/-- The option of a letter. -/
def flagLetter? : Char → Option FlagLetter
  | 'i' => some (.flag .ignoreCase)
  | 'm' => some (.flag .multiLine)
  | 's' => some (.flag .dotAll)
  | 'x' => some (.flag .verbose)
  | 'a' => some (.flag .ascii)
  | 't' => some (.flag .template)
  | 'u' => some (.flag .unicode)
  | 'L' => some .locale
  | _ => none

/-- The option that a token names. -/
def Token.flagLetter? (token : Token) : Option FlagLetter :=
  if token.escaped then none else Pattern.flagLetter? token.char

/-- Fails at a token that is no option: a letter is unknown, and before anything else something is
missing. -/
def failAtFlag {α : Type} (token : Token) (missing : Cause) : Reader α :=
  let isWord := !token.escaped && Text.isLetter token.char
  fail (if isWord then .unknownFlag else missing) token.text.length

/-- Reads options to turn on, from the one that `letter` names up to the mark after them. -/
def flagsOn : Nat → Flags → FlagLetter → Reader (Flags × Char)
  | 0, _, _ => fail .missingFlagEnd 0
  | _, _, .locale => fail .localeFlag 0
  | fuel + 1, flags, .flag flag => do
      let flags := flags.turnOn flag
      if flags.ascii && flags.unicode && (flag == .ascii || flag == .unicode) then
        fail .incompatibleFlags 0
      else
        match ← next with
        | none => fail .missingFlagEnd 0
        | some token =>
            if token.is ')' || token.is '-' || token.is ':' then pure (flags, token.char)
            else
              match token.flagLetter? with
              | some letter => flagsOn fuel flags letter
              | none => failAtFlag token .missingFlagEnd

/-- Reads options to turn off, from the one that `letter` names up to the colon. -/
def flagsOff : Nat → Flags → FlagLetter → Reader Flags
  | 0, _, _ => fail .missingColon 0
  | _, _, .locale => fail .turnOffCharacterSet 0
  | fuel + 1, flags, .flag flag => do
      if flag == .ascii || flag == .unicode then fail .turnOffCharacterSet 0
      else
        let flags := flags.turnOn flag
        match ← next with
        | none => fail .missingColon 0
        | some token =>
            if token.is ':' then pure flags
            else
              match token.flagLetter? with
              | some letter => flagsOff fuel flags letter
              | none => failAtFlag token .missingColon

/-- Reads the options to turn off after their dash. -/
def flagsAfterDash (fuel : Nat) : Reader Flags := do
  match ← next with
  | none => fail .missingFlag 0
  | some token =>
      match token.flagLetter? with
      | some letter => flagsOff fuel {} letter
      | none => failAtFlag token .missingFlag

/-- Reads options from their first letter, or from the dash when none is given. The result is the
options to turn on and off for a part; `none` says that they were turned on for the whole
pattern. -/
def inlineFlags (fuel : Nat) (first : Option FlagLetter) : Reader (Option (Flags × Flags)) := do
  let (on, mark) ← match first with
    | some letter => flagsOn fuel {} letter
    | none => pure ({}, '-')
  if mark == ')' then
    modify fun s => { s with flags := s.flags.union on }
    pure none
  else if on.template then fail .turnOnGlobalFlag 1
  else
    let off ← if mark == '-' then flagsAfterDash fuel else pure {}
    if off.template then fail .turnOffGlobalFlag 1
    else if on.meets off then fail .flagOnAndOff 1
    else pure (some (on, off))

/-! ## Groups -/

/-- Fails unless the text is a name. -/
def checkName (name : List Char) : Reader Unit :=
  if Text.isName name then pure ()
  else fail (.badGroupName (String.ofList name)) (name.length + 1)

/-- Reads a reference to a named group after its mark. -/
def namedReference : Reader Node := do
  let name ← takeName ')' "group name"
  checkName name
  let label := String.ofList name
  match (← get).names.find? (·.1 == label) with
  | none => fail (.unknownGroupName label) (name.length + 1)
  | some (_, index) =>
      if !(← isClosed index) then fail .openGroup (name.length + 1)
      else
        checkLookBehind index
        pure (.backref index)

/-- Reads the group that a conditional asks about. -/
def conditionGroup : Reader Nat := do
  let name ← takeName ')' "group name"
  let label := String.ofList name
  let index ←
    if Text.isName name then
      match (← get).names.find? (·.1 == label) with
      | none => fail (.unknownGroupName label) (name.length + 1)
      | some (_, index) => pure index
    else
      match Text.readInteger? name with
      | some (.ofNat index) =>
          if index == 0 then fail .badGroupNumber (name.length + 1)
          else if 1073741823 ≤ index then fail (.invalidGroupReference index) (name.length + 1)
          else
            let position := (← tell) - name.length - 1
            modify fun s =>
              if s.references.any (·.1 == index) then s
              else { s with references := s.references ++ [(index, position)] }
            pure index
      | _ => fail (.badGroupName label) (name.length + 1)
  checkLookBehind index
  pure index

/-- What stands after the opening of a group. -/
inductive Opening where
  /-- A group that is kept, with its name if it has one. -/
  | capture (name : Option (List Char))
  /-- A part with options of its own. -/
  | scoped (on off : Flags)
  /-- A part that is not entered again. -/
  | atomic
  /-- A look ahead, or behind. -/
  | look (behind : Bool) (negated : Bool)
  /-- A conditional. -/
  | conditional
  /-- A finished part. -/
  | done (node : Node)
  /-- A comment. -/
  | comment
  /-- Options for the whole pattern. -/
  | globalFlags

/-- Reads what stands after `(?P`. -/
def namedOpening : Reader Opening := do
  if ← accept '<' then
    let name ← takeName '>' "group name"
    checkName name
    pure (.capture (some name))
  else if ← accept '=' then
    pure (.done (← namedReference))
  else
    match ← next with
    | none => fail .unexpectedEnd 0
    | some token =>
        let text := token.text
        fail (.unknownExtension (String.ofList ('P' :: text))) (text.length + 2)

/-- Reads what stands after `(?<`. -/
def lookBehindOpening : Reader Opening := do
  match ← next with
  | none => fail .unexpectedEnd 0
  | some token =>
      if token.is '=' then pure (.look true false)
      else if token.is '!' then pure (.look true true)
      else
        let text := token.text
        fail (.unknownExtension (String.ofList ('<' :: text))) (text.length + 2)

/-- Reads what stands after the parenthesis at `start`. -/
def opening (fuel start : Nat) : Reader Opening := do
  if !(← accept '?') then pure (.capture none)
  else
    match ← next with
    | none => fail .unexpectedEnd 0
    | some token =>
        if token.is 'P' then namedOpening
        else if token.is ':' then pure (.scoped {} {})
        else if token.is '#' then
          if ← skipPast ')' then pure .comment else failAt .unterminatedComment start
        else if token.is '=' then pure (.look false false)
        else if token.is '!' then pure (.look false true)
        else if token.is '<' then lookBehindOpening
        else if token.is '(' then pure .conditional
        else if token.is '>' then pure .atomic
        else
          let letter := token.flagLetter?
          if letter.isSome || token.is '-' then
            match ← inlineFlags fuel letter with
            | some (on, off) => pure (.scoped on off)
            | none => pure .globalFlags
          else
            let text := token.text
            fail (.unknownExtension (String.ofList text)) (text.length + 1)

/-- Fails unless the parenthesis opened at `start` is closed here. -/
def expectClose (start : Nat) : Reader Unit := do
  if !(← accept ')') then failAt .missingParenthesis start

/-- Of the calls that there is room for, those that are left inside some more of them. -/
def deeper (room calls : Nat) : Reader Nat :=
  if room < calls then throw .nestedTooDeeply else pure (room - calls)

/-! ## Sequences and alternatives -/

/-- The characters that verbose patterns skip. -/
def isSkippedBlank (c : Char) : Bool :=
  c == ' ' || c == '\t' || c == '\n' || c == '\r' || c.toNat == 11 || c.toNat == 12

mutual
/-- Reads alternatives, with room for further calls inside them. `top` says that they are the whole
pattern, and `first` that none of them has been read; `fuel` bounds the steps of reading. -/
def alternatives [Library] : Nat → Nat → Bool → Bool → Bool → Reader Node
  | 0, _, _, _, _ => fail .unexpectedEnd 0
  | fuel + 1, room, verbose, top, first => do
      let item ← sequence fuel room verbose (top && first) []
      if ← accept '|' then
        let verbose ← if top then pure (← get).options.verbose else pure verbose
        let rest ← alternatives fuel room verbose top false
        pure (.alt (.ofList item) rest)
      else pure (.ofList item)
termination_by structural fuel => fuel

/-- Reads parts in sequence after those read so far, the last one first. `first` says that options
for the whole pattern may still stand here. -/
def sequence [Library] : Nat → Nat → Bool → Bool → List Node → Reader (List Node)
  | 0, _, _, _, _ => fail .unexpectedEnd 0
  | fuel + 1, room, verbose, first, parts => do
      match ← peek with
      | none => pure parts.reverse
      | some this =>
          if this.is '|' || this.is ')' then pure parts.reverse
          else
            let _ ← next
            if verbose && this.satisfies isSkippedBlank then sequence fuel room verbose first parts
            else if verbose && this.is '#' then
              let _ ← skipPast '\n'
              sequence fuel room verbose first parts
            else if this.escaped then
              let node ← escape this.char
              sequence fuel room verbose first (node :: parts)
            else if this.char == '[' then
              let node ← characterClass fuel
              sequence fuel room verbose first (node :: parts)
            else if this.char == '?' then
              sequence fuel room verbose first (← repeatLast this.position (0, some 1) parts)
            else if this.char == '*' then
              sequence fuel room verbose first (← repeatLast this.position (0, none) parts)
            else if this.char == '+' then
              sequence fuel room verbose first (← repeatLast this.position (1, none) parts)
            else if this.char == '{' then
              match ← braceBounds fuel with
              | some bounds =>
                  sequence fuel room verbose first (← repeatLast this.position bounds parts)
              | none => sequence fuel room verbose first (.code 123 :: parts)
            else if this.char == '.' then sequence fuel room verbose first (.any :: parts)
            else if this.char == '^' then sequence fuel room verbose first (.anchor .start :: parts)
            else if this.char == '$' then
              sequence fuel room verbose first (.anchor .finish :: parts)
            else if this.char == '(' then
              match ← opening fuel this.position with
              | .comment => sequence fuel room verbose first parts
              | .globalFlags =>
                  if !first || !parts.isEmpty then failAt .lateFlags this.position
                  else
                    let verbose := (← get).options.verbose
                    sequence fuel room verbose first parts
              | opened =>
                  let node ← group fuel room verbose this.position opened
                  sequence fuel room verbose first (node :: parts)
            else sequence fuel room verbose first (.code this.char.toNat :: parts)
termination_by structural fuel => fuel

/-- Reads the rest of a group that was opened at `start`. Its alternatives take two calls, and a
branch of a conditional takes one. -/
def group [Library] : Nat → Nat → Bool → Nat → Opening → Reader Node
  | 0, _, _, _, _ => fail .unexpectedEnd 0
  | fuel + 1, room, verbose, start, opened => do
      match opened with
      | .capture name =>
          let index ← openGroup name
          let inside ← deeper room 2
          let body ← alternatives fuel inside verbose false true
          expectClose start
          closeGroup index body
          pure (.capture index body)
      | .scoped on off =>
          let inside ← deeper room 2
          let body ← alternatives fuel inside ((verbose || on.verbose) && !off.verbose) false true
          expectClose start
          pure (.scoped on off body)
      | .atomic =>
          let inside ← deeper room 2
          let body ← alternatives fuel inside verbose false true
          expectClose start
          pure (.atomic body)
      | .look false negated =>
          let inside ← deeper room 2
          let body ← alternatives fuel inside verbose false true
          expectClose start
          pure (.look none negated body)
      | .look true negated =>
          let outer := (← get).lookBehindGroups
          if outer.isNone then
            modify fun s => { s with lookBehindGroups := some s.widths.size }
          let inside ← deeper room 2
          let body ← alternatives fuel inside verbose false true
          if outer.isNone then
            modify fun s => { s with lookBehindGroups := none }
          expectClose start
          pure (.look (some (← widthOf body)) negated body)
      | .conditional =>
          let index ← conditionGroup
          let inside ← deeper room 1
          let yes ← sequence fuel inside verbose false []
          let no ←
            if ← accept '|' then
              let no ← sequence fuel inside verbose false []
              match ← peek with
              | some token =>
                  if token.is '|' then fail .tooManyBranches 0
              | none => pure ()
              pure no
            else pure []
          expectClose start
          pure (.conditional index (.ofList yes) (.ofList no))
      | .done node => pure node
      | .comment | .globalFlags => pure .empty
termination_by structural fuel => fuel
end

/-! ## Whole patterns -/

/-- Whether the part is a choice between alternatives. -/
def Node.isAlt : Node → Bool
  | .alt _ _ => true
  | _ => false

/-- How many calls are nested when a tree is gone through, beyond the one for all of it. The
alternatives of a choice take one each, and a group without options of its own takes none. -/
def Node.height : Node → Nat
  | .empty | .code _ | .notCode _ | .any | .oneOf _ _ | .anchor _ | .backref _ => 0
  | .seq a b => max a.height b.height
  | .alt a b => max (a.height + 1) (if b.isAlt then b.height else b.height + 1)
  | .capture _ body | .atomic body | .look _ _ body | .repeated _ _ _ body => body.height + 1
  | .scoped on off body => if on == {} && off == {} then body.height else body.height + 1
  | .conditional _ yes no => max yes.height no.height + 1

/-- The first fault that only the finished tree shows: a repetition where none is allowed, or a
look behind whose width varies or is too large. -/
def Node.fault? (template : Bool) : Node → Option Cause
  | .empty | .code _ | .notCode _ | .any | .oneOf _ _ | .anchor _ | .backref _ => none
  | .seq a b | .alt a b => (a.fault? template).orElse fun _ => b.fault? template
  | .capture _ body | .scoped _ _ body | .atomic body => body.fault? template
  | .look none _ body => body.fault? template
  | .look (some width) _ body =>
      if 4294967295 < width.least then some .longLookBehind
      else if width.least != width.greatest then some .variableLookBehind
      else body.fault? template
  | .conditional _ yes no => (yes.fault? template).orElse fun _ => no.fault? template
  | .repeated _ _ greed body =>
      if template then
        some (.templateRepeat (match greed with
          | .greedy => "MAX_REPEAT"
          | .reluctant => "MIN_REPEAT"
          | .possessive => "POSSESSIVE_REPEAT"))
      else body.fault? template

/-- Fails for the first conditional that names a group that does not exist. -/
def checkReferences : Reader Unit := do
  let s ← get
  match s.references.find? fun reference => s.widths.size ≤ reference.1 with
  | some (index, position) => failAt (.invalidGroupReference index) position
  | none => pure ()

/-- Reads a whole pattern. -/
def wholePattern [Library] (fuel : Nat) : Reader Node := do
  checkDangling
  let root ← alternatives fuel Library.nesting (← get).options.verbose true true
  let options := (← get).options
  if options.ascii && options.unicode then throw .characterSetClash
  if (← peek).isSome then fail .unbalancedParenthesis 0
  checkReferences
  if Library.nesting < root.height then throw .nestedTooDeeply
  match root.fault? options.template with
  | some cause => throw (.malformed cause none)
  | none => pure root

/-- Reads the text of a pattern under the given options. -/
def Regex.parse [Library] (given : Flags) (pattern : List Char) : Except PatternError Regex := do
  let (tokens, dangling) := tokenize 0 pattern
  let start : Reading :=
    { tokens := tokens, dangling := dangling, length := pattern.length, given := given }
  let (root, s) ← (wholePattern (4 * pattern.length + 8)).run start
  pure { root := root, flags := s.flags, groups := s.widths.size - 1, names := s.names }

end ChannelLint.Pattern
