import ChannelLint.Error
import ChannelLint.Value

/-!
# Definitions of a configuration document

The tables that a document has defined so far, and which of them may still be extended. A value
given as an array or an inline table is frozen with all that it holds; a table with a header of its
own, and one that a dotted key went through before the last header, may not be declared again.
-/

namespace ChannelLint.Toml

/-- A key path. -/
abbrev Key := List String

/-- Whether the key or one that it lies below is frozen. -/
def isFrozen (frozen : List Key) (key : Key) : Bool :=
  frozen.any (·.isPrefixOf key)

/-- Whether a value is frozen with all that it holds. -/
def freezes : Value → Bool
  | .array _ | .table _ => true
  | _ => false

/-- Changes the table at a key path, which is created as far as it is missing. An array on the way
stands for its last table if `throughArrays` says so; any other value on the way would be
overwritten. -/
def updateAt (throughArrays : Bool) (change : Table → Except DocumentCause Table) :
    Key → Table → Except DocumentCause Table
  | [], entries => change entries
  | key :: rest, entries =>
      match (Table.get? key entries).getD (.table []) with
      | .table inner => do
          let inner ← updateAt throughArrays change rest inner
          pure (Table.put key (.table inner) entries)
      | .array items =>
          match throughArrays, items.getLast? with
          | true, some (.table inner) => do
              let inner ← updateAt throughArrays change rest inner
              pure (Table.put key (.array (items.dropLast ++ [.table inner])) entries)
          | _, _ => .error .overwrite
      | _ => .error .overwrite

/-- Puts a value at a key that has none. -/
def define (taken : DocumentCause) (key : String) (value : Value) (entries : Table) :
    Except DocumentCause Table :=
  if Table.has key entries then .error taken else .ok (Table.put key value entries)

/-- Appends an empty table to the array at a key, which is created if it is missing. -/
def appendTable (key : String) (entries : Table) : Except DocumentCause Table :=
  match Table.get? key entries with
  | none => .ok (Table.put key (.array [.table []]) entries)
  | some (.array items) => .ok (Table.put key (.array (items ++ [.table []])) entries)
  | some _ => .error .overwrite

/-- What a document has defined so far. -/
structure Store where
  /-- The tables. -/
  data : Table := []
  /-- The keys whose values are frozen with all that they hold. -/
  frozen : List Key := []
  /-- The keys of tables that may not be declared again. -/
  declared : List Key := []
  /-- The keys that join them at the next header. -/
  pending : List Key := []

namespace Store

/-- The store at a header: the keys that dotted keys went through are declared. -/
def atHeader (store : Store) : Store :=
  { store with declared := store.declared ++ store.pending, pending := [] }

/-- Declares a table. -/
def declareTable (store : Store) (key : Key) : Except DocumentCause Store :=
  if store.declared.contains key || isFrozen store.frozen key then .error (.declaredTwice key)
  else do
    let data ← updateAt true .ok key store.data
    pure { store with data := data, declared := key :: store.declared }

/-- Declares one more table of an array; what was said of the tables before it does not hold for
it. -/
def declareArray (store : Store) (key : Key) : Except DocumentCause Store :=
  if isFrozen store.frozen key then .error (.immutable key)
  else do
    let keep (other : Key) : Bool := !key.isPrefixOf other
    let data ← updateAt true (appendTable (key.getLast?.getD "")) key.dropLast store.data
    pure { store with
      data := data
      frozen := store.frozen.filter keep
      declared := key :: store.declared.filter keep }

/-- The key paths that a dotted key goes through below a header. -/
def pathsThrough (header key : Key) : List Key :=
  (List.range (key.length - 1)).map fun count => header ++ key.take (count + 1)

/-- Defines a value by a key below a header. -/
def defineValue (store : Store) (header key : Key) (value : Value) : Except DocumentCause Store :=
  let through := pathsThrough header key
  match through.find? store.declared.contains with
  | some path => .error (.redefined path)
  | none =>
      let parent := header ++ key.dropLast
      if isFrozen store.frozen parent then .error (.immutable parent)
      else do
        let last := key.getLast?.getD ""
        let data ← updateAt true (define .overwrite last value) parent store.data
        pure { store with
          data := data
          pending := store.pending ++ through
          frozen := if freezes value then (header ++ key) :: store.frozen else store.frozen }

end Store

end ChannelLint.Toml
