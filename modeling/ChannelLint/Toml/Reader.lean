import ChannelLint.Toml.Scalar
import ChannelLint.Toml.Store

/-!
# Reading configuration documents

`Toml.parse` reads a document statement by statement into a table, or says what is wrong and where.
A document is malformed at the place where the reader stands when it notices.
-/

namespace ChannelLint.Toml

/-- A step on definitions, failing in front of the given text. -/
def definition {α : Type} (rest : List Char) (step : Except DocumentCause α) : Except Fault α :=
  match step with
  | .ok a => .ok a
  | .error cause => fail cause rest

/-! ## Keys -/

/-- Reads a part of a key. -/
def readKeyPart (text : List Char) : Except Fault (String × List Char) :=
  match text with
  | c :: rest =>
      if isBareKeyChar c then
        let chars := text.takeWhile isBareKeyChar
        .ok (String.ofList chars, text.drop chars.length)
      else if c == singleQuote then
        (readLiteralLine rest).map fun (chars, after) => (String.ofList chars, after)
      else if c == '"' then
        (readBasicLine rest).map fun (chars, after) => (String.ofList chars, after)
      else fail .invalidKeyStart text
  | [] => fail .invalidKeyStart []

/-- Reads a key; `fuel` bounds the number of its parts. -/
def readKey : Nat → List Char → Except Fault (Key × List Char)
  | 0, text => fail .invalidKeyStart text
  | fuel + 1, text => do
      let (part, rest) ← readKeyPart text
      match skipSpaces rest with
      | '.' :: more => do
          let (parts, after) ← readKey fuel (skipSpaces more)
          pure (part :: parts, after)
      | after => pure ([part], after)

/-! ## Values -/

/-- Reads a value that is neither an array nor an inline table. -/
def readScalar (text : List Char) : Except Fault (Value × List Char) :=
  let asString (read : Except Fault (List Char × List Char)) : Except Fault (Value × List Char) :=
    read.map fun (chars, after) => (.string (String.ofList chars), after)
  if ['"', '"', '"'].isPrefixOf text then asString (readBasicLines (text.drop 3))
  else if ['"'].isPrefixOf text then asString (readBasicLine (text.drop 1))
  else if [singleQuote, singleQuote, singleQuote].isPrefixOf text then
    asString (readLiteralLines (text.drop 3))
  else if [singleQuote].isPrefixOf text then asString (readLiteralLine (text.drop 1))
  else if "true".toList.isPrefixOf text then .ok (.bool true, text.drop 4)
  else if "false".toList.isPrefixOf text then .ok (.bool false, text.drop 5)
  else
    match readMoment? text with
    | some result => result
    | none =>
        match readNumber? text with
        | some result => result
        | none =>
            match readSpecial? text with
            | some result => .ok result
            | none => fail .invalidValue text

mutual
/-- Reads a value; `fuel` bounds the number and depth of its parts. -/
def readValue : Nat → List Char → Except Fault (Value × List Char)
  | 0, text => fail .invalidValue text
  | fuel + 1, text =>
      match text with
      | '[' :: rest => do
          let (items, after) ← readItems fuel [] rest
          pure (.array items, after)
      | '{' :: rest =>
          match skipSpaces rest with
          | '}' :: after => .ok (.table [], after)
          | start => do
              let (entries, after) ← readEntries fuel [] [] start
              pure (.table entries, after)
      | _ => readScalar text

/-- Reads the items of an array up to its bracket, after those read so far. -/
def readItems : Nat → List Value → List Char → Except Fault (List Value × List Char)
  | 0, _, text => fail .unclosedArray text
  | fuel + 1, items, text => do
      let start ← skipFiller fuel text
      match start with
      | ']' :: after => pure (items, after)
      | _ => do
          let (item, rest) ← readValue fuel start
          let rest ← skipFiller fuel rest
          match rest with
          | ']' :: after => pure (items ++ [item], after)
          | ',' :: after => readItems fuel (items ++ [item]) after
          | _ => fail .unclosedArray rest

/-- Reads the entries of an inline table up to its brace, after those read so far, some of which
are frozen. -/
def readEntries : Nat → List Key → Table → List Char → Except Fault (Table × List Char)
  | 0, _, _, text => fail .unclosedTable text
  | fuel + 1, frozen, entries, text => do
      let (key, value, rest) ← readPair fuel text
      if isFrozen frozen key then fail (.immutable key) rest
      else
        let last := key.getLast?.getD ""
        let entries ← definition rest
          (updateAt false (define (.duplicateKey last) last value) key.dropLast entries)
        match skipSpaces rest with
        | '}' :: after => pure (entries, after)
        | ',' :: after =>
            let frozen := if freezes value then key :: frozen else frozen
            readEntries fuel frozen entries (skipSpaces after)
        | after => fail .unclosedTable after

/-- Reads a key and its value. -/
def readPair : Nat → List Char → Except Fault (Key × Value × List Char)
  | 0, text => fail .invalidValue text
  | fuel + 1, text => do
      let (key, rest) ← readKey (text.length + 1) text
      match rest with
      | '=' :: more => do
          let (value, after) ← readValue fuel (skipSpaces more)
          pure (key, value, after)
      | _ => fail .expectedEquals rest
end

/-! ## Statements -/

/-- Reads a table header after its bracket. -/
def readTableHeader (store : Store) (text : List Char) :
    Except Fault (Store × Key × List Char) := do
  let (key, rest) ← readKey (text.length + 1) (skipSpaces text)
  let store ← definition rest (store.declareTable key)
  match rest with
  | ']' :: after => pure (store, key, after)
  | _ => fail .expectedTableEnd rest

/-- Reads the header of a table of an array after its brackets. -/
def readArrayHeader (store : Store) (text : List Char) :
    Except Fault (Store × Key × List Char) := do
  let (key, rest) ← readKey (text.length + 1) (skipSpaces text)
  let store ← definition rest (store.declareArray key)
  match rest with
  | ']' :: ']' :: after => pure (store, key, after)
  | _ => fail .expectedArrayEnd rest

/-- Reads one statement, if there is one before the end of the line, and gives the header in
force after it. -/
def readStatement (store : Store) (header : Key) (text : List Char) :
    Except Fault (Store × Key × List Char) :=
  match text with
  | '[' :: '[' :: rest => readArrayHeader store.atHeader rest
  | '[' :: rest => readTableHeader store.atHeader rest
  | '#' :: _ => .ok (store, header, text)
  | c :: _ =>
      if isBareKeyChar c || c == '"' || c == singleQuote then do
        let (key, value, rest) ← readPair (4 * text.length + 8) text
        let store ← definition rest (store.defineValue header key value)
        pure (store, header, rest)
      else fail .invalidStatement text
  | [] => .ok (store, header, [])

/-- Reads the statements of a document; `fuel` bounds their number. -/
def readStatements : Nat → Store → Key → List Char → Except Fault Table
  | 0, store, _, _ => .ok store.data
  | fuel + 1, store, header, text =>
      match skipSpaces text with
      | [] => .ok store.data
      | '\n' :: rest => readStatements fuel store header rest
      | start => do
          let (store, header, rest) ← readStatement store header start
          let rest ← skipComment (skipSpaces rest)
          match rest with
          | [] => pure store.data
          | '\n' :: after => readStatements fuel store header after
          | _ => fail .expectedStatementEnd rest

/-- The place that is `remaining` characters before the end of a document. -/
def placeOf (text : List Char) (remaining : Nat) : DocumentPlace :=
  if remaining == 0 then .atEnd
  else
    let before := text.take (text.length - remaining)
    .at (Text.lineFeeds before + 1) ((before.reverse.takeWhile (· != '\n')).length + 1)

/-- Reads a document whose lines end with line feeds. -/
def parse (text : List Char) : Except DocumentError Table :=
  match readStatements (text.length + 1) {} [] text with
  | .ok table => .ok table
  | .error (.malformed cause remaining) => .error (.malformed cause (placeOf text remaining))
  | .error (.numeralTooLong digits) => .error (.numeralTooLong digits)

end ChannelLint.Toml
