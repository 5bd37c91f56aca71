import ChannelLint.FileTree
import ChannelLint.Json.Reader

/-!
# Project snapshots

The files of a project as a JSON object of paths and texts, from which the file tree is built. A
path whose value is null is a directory.
-/

namespace ChannelLint.Snapshot

/-- Puts an entry of a snapshot into a tree below the given directory. -/
def addEntry (cwd : Location) (tree : FileTree) (entry : String × Value) : FileTree :=
  let location := (Path.ofString entry.1).resolveFrom cwd
  match entry.2 with
  | .string text => FileTree.insert (.file (Text.encodeUtf8 text)) location tree
  | .null => FileTree.insert (.directory []) location tree
  | _ => tree

/-- The file tree of a snapshot below the given directory. -/
def toTree (cwd : Location) (entries : Table) : FileTree :=
  entries.foldl (addEntry cwd) (FileTree.insert (.directory []) cwd (.directory []))

/-- Reads the text of a snapshot. -/
def parse? (cwd : Location) (text : String) : Option FileTree :=
  match Json.parse? text with
  | some (.table entries) => some (toTree cwd entries)
  | _ => none

end ChannelLint.Snapshot
