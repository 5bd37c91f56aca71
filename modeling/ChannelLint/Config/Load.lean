import ChannelLint.Config.Table
import ChannelLint.FileTree
import ChannelLint.Toml.Reader

/-!
# Loading configurations

A project is configured by a file of its own or by a section of its general project file; the
former wins. Without either, the defaults hold.
-/

namespace ChannelLint.Config

/-- The name of the configuration file. -/
def fileName : String := ".brslint.toml"

/-- The name of the general project file. -/
def projectFileName : String := "pyproject.toml"

/-- The name of the tool's section of a general project file. -/
def toolName : String := "brslint"

/-- The path of an entry of a directory. -/
def entryPath (directory : Path) (name : String) : Path :=
  { directory with parts := directory.parts ++ [name] }

/-- Reads a configuration document. -/
def readDocument (tree : FileTree) (cwd : Location) (path : Path) : Except LintError Table := do
  let bytes ← tree.read cwd path
  let text ← (Text.decodeStrict bytes).mapError .encoding
  match Toml.parse (Text.unifyNewlines text) with
  | .ok table => pure table
  | .error (.malformed cause place) => throw (.config (.document path.toString cause place))
  | .error (.numeralTooLong digits) => throw (.numeralTooLong digits)

/-- The configuration in the tool's section of a general project file; the defaults hold when the
section is missing, empty or not a table. -/
def ofProjectTable [Library] (entries : Table) : Except LintError Config :=
  match Table.get? "tool" entries with
  | some (.table tools) =>
      match Table.get? toolName tools with
      | some (.table own) =>
          if own.isEmpty then .ok {} else ofTable ("tool." ++ toolName) own
      | _ => .ok {}
  | _ => .ok {}

/-- The configuration of a project directory. -/
def load [Library] (tree : FileTree) (cwd : Location) (directory : Path) :
    Except LintError Config := do
  let own := entryPath directory fileName
  if tree.existsAt cwd own then
    ofTable "" (← readDocument tree cwd own)
  else
    let project := entryPath directory projectFileName
    if tree.existsAt cwd project then
      ofProjectTable (← readDocument tree cwd project)
    else pure {}

end ChannelLint.Config
