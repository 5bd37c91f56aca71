import ChannelLint.Error
import ChannelLint.Path

/-!
# File trees

The files and directories that a run can see, as a value. A path is followed name by name: every
name but the last must be a directory, and double dots lead back to the directory above.
-/

namespace ChannelLint

/-- A file with its bytes, or a directory with its entries. -/
inductive FileTree where
  | file (bytes : List UInt8)
  | directory (entries : List (String × FileTree))

namespace FileTree

/-- Whether the tree is a directory. -/
def isDirectory : FileTree → Bool
  | file _ => false
  | directory _ => true

/-- The entry of a name. -/
def child? (name : String) : List (String × FileTree) → Option FileTree
  | [] => none
  | (n, tree) :: rest => if n == name then some tree else child? name rest

/-- Puts an entry in place of the one of its name, or at the end. -/
def putChild (name : String) (tree : FileTree) : List (String × FileTree) → List (String × FileTree)
  | [] => [(name, tree)]
  | (n, old) :: rest =>
      if n == name then (n, tree) :: rest else (n, old) :: putChild name tree rest

/-- The entries of a directory; a file has none. -/
def entries : FileTree → List (String × FileTree)
  | file _ => []
  | directory all => all

/-- Puts a tree at a location, where directories are created as far as they are missing. A
directory put in place of a directory changes nothing. -/
def insert (leaf : FileTree) : Location → FileTree → FileTree
  | [], tree => if leaf.isDirectory && tree.isDirectory then tree else leaf
  | name :: rest, tree =>
      let below := (child? name tree.entries).getD (directory [])
      directory (putChild name (insert leaf rest below) tree.entries)

/-- The tree at a location. -/
def get? : Location → FileTree → Option FileTree
  | [], tree => some tree
  | name :: rest, tree =>
      match child? name tree.entries with
      | some below => get? rest below
      | none => none

/-- Whether a file stands at the location. -/
def isFileAt (tree : FileTree) (location : Location) : Bool :=
  match get? location tree with
  | some (file _) => true
  | _ => false

/-- Whether a directory stands at the location. -/
def isDirectoryAt (tree : FileTree) (location : Location) : Bool :=
  match get? location tree with
  | some (directory _) => true
  | _ => false

/-- Follows names from a tree; `above` are the directories above it, nearest first. -/
def follow (above : List FileTree) (tree : FileTree) : List String → Except FileCause FileTree
  | [] => .ok tree
  | name :: rest =>
      match tree with
      | file _ => .error .notDirectory
      | directory all =>
          if name == ".." then
            match above with
            | [] => follow [] tree rest
            | parent :: more => follow more parent rest
          else
            match child? name all with
            | some below => follow (tree :: above) below rest
            | none => .error .notFound

/-- The tree at a path taken from the given directory. -/
def lookup (tree : FileTree) (cwd : Location) (path : Path) : Except FileCause FileTree :=
  follow [] tree (if path.isAbsolute then path.parts else cwd ++ path.parts)

/-- The bytes of the file at a path. -/
def read (tree : FileTree) (cwd : Location) (path : Path) : Except LintError (List UInt8) :=
  if path.hasNull then .error .nullInPath
  else
    match tree.lookup cwd path with
    | .ok (file bytes) => .ok bytes
    | .ok (directory _) => .error (.file .isDirectory path.toString)
    | .error cause => .error (.file cause path.toString)

/-- Whether something stands at a path. -/
def existsAt (tree : FileTree) (cwd : Location) (path : Path) : Bool :=
  !path.hasNull && (tree.lookup cwd path).toOption.isSome

mutual
/-- The locations of the files of a tree that stands at `here`; directories whose names satisfy
the test are left out. -/
def filesIn (skip : String → Bool) (here : Location) : FileTree → List Location
  | file _ => [here]
  | directory all => filesInEntries skip here all

/-- The locations of the files in the entries of a directory that stands at `here`. -/
def filesInEntries (skip : String → Bool) (here : Location) :
    List (String × FileTree) → List Location
  | [] => []
  | (name, tree) :: rest =>
      (if tree.isDirectory && skip name then [] else filesIn skip (here ++ [name]) tree) ++
        filesInEntries skip here rest
end

end FileTree

end ChannelLint
