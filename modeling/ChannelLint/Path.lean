/-!
# Paths

Slash-separated paths in their normal form: empty components and single dots are dropped, double
dots are kept. A path that is resolved against a directory becomes a location, the list of names
from the root of the file system, in which double dots have been carried out name by name.
-/

namespace ChannelLint

/-- A path. -/
structure Path where
  /-- The number of slashes in front: none for a relative path, two only when exactly two were
  written. -/
  slashes : Nat
  /-- The components. -/
  parts : List String
  deriving DecidableEq, Repr

/-- The names from the root of the file system down to a file or directory. -/
abbrev Location := List String

namespace Path

/-- The pieces of a text between slashes. -/
def pieces : List Char → List (List Char)
  | [] => [[]]
  | c :: rest =>
      if c == '/' then [] :: pieces rest
      else
        match pieces rest with
        | [] => [[c]]
        | piece :: more => (c :: piece) :: more

/-- The path that a text spells. -/
def ofString (text : String) : Path :=
  let chars := text.toList
  let front := (chars.takeWhile (· == '/')).length
  let names := (pieces chars).map String.ofList
  { slashes := if front == 2 then 2 else min front 1
    parts := names.filter fun name => name != "" && name != "." }

/-- The text of a path; the empty relative path is a single dot. -/
def toString (path : Path) : String :=
  if path.slashes == 0 && path.parts.isEmpty then "."
  else String.ofList (List.replicate path.slashes '/') ++ "/".intercalate path.parts

/-- Whether the path starts at the root of the file system. -/
def isAbsolute (path : Path) : Bool :=
  path.slashes != 0

/-- The path at the given location. -/
def ofLocation (location : Location) : Path :=
  ⟨1, location⟩

/-- A path taken from another: an absolute one replaces it. -/
def join (base path : Path) : Path :=
  if path.isAbsolute then path else { base with parts := base.parts ++ path.parts }

/-- The last component. -/
def name (path : Path) : String :=
  path.parts.getLast?.getD ""

/-- The part of a name from its last dot on; a dot that starts or ends the name does not count. -/
def nameSuffix (name : List Char) : List Char :=
  let tail := (name.reverse.takeWhile (· != '.')).reverse
  let before := name.length - tail.length
  if tail.isEmpty || before ≤ 1 then [] else '.' :: tail

/-- The suffix of the last component. -/
def suffix (path : Path) : List Char :=
  nameSuffix path.name.toList

/-- Goes down to a name, or up for double dots; nothing is above the root. -/
def descend (location : Location) (name : String) : Location :=
  if name == ".." then location.dropLast else location ++ [name]

/-- The location of a path taken from the given directory. -/
def resolveFrom (cwd : Location) (path : Path) : Location :=
  path.parts.foldl descend (if path.isAbsolute then [] else cwd)

/-- Whether the path holds a null character, which no location has. -/
def hasNull (path : Path) : Bool :=
  path.parts.any fun part => part.toList.contains (Char.ofNat 0)

end Path

namespace Location

/-- The text of a location. -/
def toString (location : Location) : String :=
  "/" ++ "/".intercalate location

/-- The names that lead from one location down to another, if it lies at or below. -/
def relativeTo? (root : Location) : Location → Option (List String)
  | location =>
      if root.isPrefixOf location then some (location.drop root.length) else none

/-- Whether the first location comes before the second or is the same, name by name. -/
def le : Location → Location → Bool
  | [], _ => true
  | _ :: _, [] => false
  | a :: as, b :: bs => if a == b then le as bs else a < b

end Location

/-- The path that reports show for a file: relative to the root when it lies at or below, and as
given otherwise. -/
def reportPath (cwd : Location) (path root : Path) : String :=
  match Location.relativeTo? (root.resolveFrom cwd) (path.resolveFrom cwd) with
  | some names => Path.toString ⟨0, names⟩
  | none => path.toString

end ChannelLint
