import ChannelLint.Moment
import ChannelLint.Number.Shortest
import ChannelLint.Text.Integer
import ChannelLint.Text.Quoted

/-!
# Values of configuration documents

What a configuration or a request may hold: scalars, dates, arrays and tables. A table keeps its
entries in the order in which their keys first appeared. `Value.display` is the text of a value as
a message shows it, in which a string stands for itself; inside an array or a table every part is
written as a literal. An integer with too many digits has no text at all.
-/

namespace ChannelLint

/-- A value of a document. -/
inductive Value where
  /-- The absent value. -/
  | null
  /-- A truth value. -/
  | bool (b : Bool)
  /-- An integer of any size. -/
  | integer (n : Int)
  /-- A floating-point number. -/
  | float (x : Double)
  /-- A text. -/
  | string (s : String)
  /-- A date or time. -/
  | moment (m : Moment)
  /-- A sequence of values. -/
  | array (items : List Value)
  /-- Entries by key, in order of first appearance. -/
  | table (entries : List (String × Value))
  deriving Repr

/-- The entries of a table. -/
abbrev Table := List (String × Value)

namespace Table

/-- The value at a key. -/
def get? (key : String) : Table → Option Value
  | [] => none
  | (k, v) :: rest => if k == key then some v else get? key rest

/-- Whether the key has a value. -/
def has (key : String) (entries : Table) : Bool :=
  (get? key entries).isSome

/-- Puts a value at a key: in place of the old value, or at the end. -/
def put (key : String) (value : Value) : Table → Table
  | [] => [(key, value)]
  | (k, v) :: rest => if k == key then (k, value) :: rest else (k, v) :: put key value rest

/-- Puts every entry of `new` in turn. -/
def putAll (entries new : Table) : Table :=
  new.foldl (fun table entry => put entry.1 entry.2 table) entries

end Table

/-- Whether the integer has few enough digits to be written. -/
def isWritableInteger (n : Int) : Bool :=
  n.natAbs < Nat.pow 10 Text.maxNumeralDigits

mutual
/-- Whether all integers in the value can be written. -/
def Value.isWritable : Value → Bool
  | .integer n => isWritableInteger n
  | .array items => itemsAreWritable items
  | .table entries => entriesAreWritable entries
  | .null | .bool _ | .float _ | .string _ | .moment _ => true

/-- Whether all integers in the items of an array can be written. -/
def itemsAreWritable : List Value → Bool
  | [] => true
  | item :: rest => item.isWritable && itemsAreWritable rest

/-- Whether all integers in the entries of a table can be written. -/
def entriesAreWritable : List (String × Value) → Bool
  | [] => true
  | (_, value) :: rest => value.isWritable && entriesAreWritable rest
end

mutual
/-- The value as a literal. -/
def Value.literal : Value → String
  | .null => "None"
  | .bool b => if b then "True" else "False"
  | .integer n => toString n
  | .float x => x.text
  | .string s => Text.quotedString s
  | .moment m => m.call
  | .array items => "[" ++ ", ".intercalate (literals items) ++ "]"
  | .table entries => "\x7b" ++ ", ".intercalate (entryLiterals entries) ++ "\x7d"

/-- The literals of the items of an array. -/
def literals : List Value → List String
  | [] => []
  | item :: rest => item.literal :: literals rest

/-- The literals of the entries of a table. -/
def entryLiterals : List (String × Value) → List String
  | [] => []
  | (key, value) :: rest =>
      (Text.quotedString key ++ ": " ++ value.literal) :: entryLiterals rest
end

/-- The text of a value in a message: a string and a moment stand for themselves. -/
def Value.display : Value → String
  | .string s => s
  | .moment m => m.text
  | value => value.literal

end ChannelLint
