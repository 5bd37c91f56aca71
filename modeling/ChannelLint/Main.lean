import ChannelLint.Program
import ChannelLint.Snapshot

/-!
# Main

The command line of the linter. The project is read from standard input as a snapshot; the number
of workers may be configured by an environment variable.
-/

namespace ChannelLint

/-- The directory at which a snapshot stands. -/
def snapshotRoot : Location := ["project"]

/-- Prints what a run leaves behind and gives its exit code. -/
def printOutcome (outcome : Program.Outcome) : IO UInt32 := do
  IO.print outcome.output
  IO.eprint outcome.errors
  pure (UInt32.ofNat outcome.exitCode)

/-- Runs a command line on the snapshot of a project. -/
def runOnSnapshot (text : String) (workers : Option String) (args : List String) : IO UInt32 := do
  match Snapshot.parse? snapshotRoot text with
  | none =>
      IO.eprintln "The snapshot is not a JSON object."
      pure 1
  | some tree =>
      match Program.runToEnd { tree := tree, cwd := snapshotRoot, workers := workers } args with
      | .ok outcome => printOutcome outcome
      | .error error =>
          IO.eprintln error.message
          pure 1

end ChannelLint

/-- The program. -/
def main (args : List String) : IO UInt32 := do
  let input ← IO.getStdin
  let text ← input.readToEnd
  let workers ← IO.getEnv "BRSLINT_WORKERS"
  ChannelLint.runOnSnapshot text workers args
