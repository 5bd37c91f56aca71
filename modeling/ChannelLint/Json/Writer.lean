import ChannelLint.Value

/-!
# Writing JSON

Values as JSON text in ASCII. A character outside the printable ASCII range is written as an
escape, one above `0xffff` as the two escapes of its UTF-16 units; numbers that are not finite are
written by name, and dates as strings. The report form puts every entry on its own line, indented
by two spaces for each level.
-/

namespace ChannelLint.Json

/-- The escape of one UTF-16 unit. -/
def unitEscape (unit : Nat) : List Char :=
  '\\' :: 'u' :: Text.hexDigits 4 unit

/-- One character of a JSON string. -/
def escapeChar (c : Char) : List Char :=
  if c == '"' || c == '\\' then ['\\', c]
  else if 0x20 ≤ c.toNat && c.toNat ≤ 0x7e then [c]
  else if c == '\n' then ['\\', 'n']
  else if c == '\r' then ['\\', 'r']
  else if c == '\t' then ['\\', 't']
  else if c.toNat == 8 then ['\\', 'b']
  else if c.toNat == 12 then ['\\', 'f']
  else if c.toNat < 0x10000 then unitEscape c.toNat
  else
    unitEscape (0xd800 + (c.toNat - 0x10000) / 0x400) ++
      unitEscape (0xdc00 + (c.toNat - 0x10000) % 0x400)

/-- A text as a JSON string. -/
def writeString (text : String) : List Char :=
  '"' :: text.toList.flatMap escapeChar ++ ['"']

/-- A floating-point number: its shortest decimal, or the name of one that is not finite. -/
def writeFloat : Double → List Char
  | .nan => "NaN".toList
  | .infinity negative => if negative then "-Infinity".toList else "Infinity".toList
  | x => x.text.toList

/-- The marks around and between the parts of arrays and tables. -/
structure Layout where
  /-- What stands before the parts at the given depth. -/
  opening : Nat → List Char
  /-- What stands between two parts at the given depth. -/
  between : Nat → List Char
  /-- What stands after the parts, back at the given depth. -/
  closing : Nat → List Char
  /-- What stands between a key and its value. -/
  colon : List Char

/-- Everything on one line, without blanks. -/
def compactLayout : Layout where
  opening _ := []
  between _ := [',']
  closing _ := []
  colon := [':']

/-- A line break and the indentation of the given depth. -/
def newLine (depth : Nat) : List Char :=
  '\n' :: List.replicate (2 * depth) ' '

/-- Every part on a line of its own, indented by two spaces for each level. -/
def reportLayout : Layout where
  opening depth := newLine depth
  between depth := ',' :: newLine depth
  closing depth := newLine depth
  colon := [':', ' ']

mutual
/-- Writes a value at the given depth. -/
def write (layout : Layout) (depth : Nat) : Value → List Char
  | .null => "null".toList
  | .bool b => if b then "true".toList else "false".toList
  | .integer n => (toString n).toList
  | .float x => writeFloat x
  | .string s => writeString s
  | .moment m => writeString m.text
  | .array [] => "[]".toList
  | .array (item :: rest) =>
      '[' :: layout.opening (depth + 1) ++ write layout (depth + 1) item ++
        writeItems layout (depth + 1) rest ++ layout.closing depth ++ [']']
  | .table [] => "\x7b\x7d".toList
  | .table ((key, value) :: rest) =>
      '{' :: layout.opening (depth + 1) ++ writeString key ++ layout.colon ++
        write layout (depth + 1) value ++ writeEntries layout (depth + 1) rest ++
        layout.closing depth ++ ['}']

/-- Writes the items after the first. -/
def writeItems (layout : Layout) (depth : Nat) : List Value → List Char
  | [] => []
  | item :: rest =>
      layout.between depth ++ write layout depth item ++ writeItems layout depth rest

/-- Writes the entries after the first. -/
def writeEntries (layout : Layout) (depth : Nat) : List (String × Value) → List Char
  | [] => []
  | (key, value) :: rest =>
      layout.between depth ++ writeString key ++ layout.colon ++ write layout depth value ++
        writeEntries layout depth rest
end

/-- The value as JSON on one line. -/
def compact (value : Value) : String :=
  String.ofList (write compactLayout 0 value)

/-- The value as JSON in the report form. -/
def pretty (value : Value) : String :=
  String.ofList (write reportLayout 0 value)

/-! ## Sorted keys -/

/-- Whether the first entry's key does not come after the second's, by code points. -/
def keyLe (a b : String × Value) : Bool :=
  !(b.1 < a.1)

mutual
/-- The value with the entries of every table in order of their keys. -/
def sortKeys : Value → Value
  | .array items => .array (sortKeysItems items)
  | .table entries => .table ((sortKeysEntries entries).mergeSort keyLe)
  | value => value

/-- The items with sorted keys. -/
def sortKeysItems : List Value → List Value
  | [] => []
  | item :: rest => sortKeys item :: sortKeysItems rest

/-- The entries with sorted keys inside their values. -/
def sortKeysEntries : List (String × Value) → List (String × Value)
  | [] => []
  | (key, value) :: rest => (key, sortKeys value) :: sortKeysEntries rest
end

end ChannelLint.Json
