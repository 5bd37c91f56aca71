import ChannelLint.Config.Load
import ChannelLint.Ignore

/-!
# Linting a project

From a path to its warnings: the root of the project is found, its configuration loaded, its files
discovered in a fixed order and each of them inspected. Warnings and notices come in the order of
the files, however many workers inspect them; the first error ends the run.
-/

namespace ChannelLint

/-- What is linted. -/
structure Target where
  /-- The root of the project. -/
  root : Location
  /-- The file or directory to look at. -/
  scan : Location
  /-- The configuration. -/
  config : Config

namespace Lint

/-! ## Finding the project -/

/-- The files that mark the root of a project. -/
def rootMarkers : List String :=
  [Config.fileName, Config.projectFileName, "manifest"]

/-- Whether a marker stands in the directory. -/
def hasMarker (tree : FileTree) (directory : Location) : Bool :=
  rootMarkers.any fun marker => (tree.get? (directory ++ [marker])).isSome

/-- A location and the directories above it, nearest first. -/
def withParents : Location → List Location
  | location => (List.range (location.length + 1)).map fun count =>
      location.take (location.length - count)

/-- The root of the project that a location belongs to: the nearest directory with a marker, or
else the directory itself. -/
def projectRoot (tree : FileTree) (start : Location) : Location :=
  let base := if tree.isDirectoryAt start then start else start.dropLast
  ((withParents base).find? (hasMarker tree)).getD base

/-- Finds the project of a location, with the given configuration or its own. -/
def prepare [Library] (tree : FileTree) (cwd : Location) (scan : Location)
    (config : Option Config) : Except LintError Target := do
  let root := projectRoot tree scan
  let config ← match config with
    | some config => pure config
    | none => Config.load tree cwd (.ofLocation root)
  pure ⟨root, scan, config⟩

/-! ## Discovering files -/

/-- The names of directories that are never entered. -/
def skippedDirectories : List String :=
  [".git", ".hg", ".svn", ".idea", ".vscode", "node_modules", "out", "dist", "build"]

/-- Whether the name of a file has one of the suffixes. -/
def hasExtension (extensions : List String) (location : Location) : Bool :=
  extensions.contains (String.ofList (Text.lower (Path.ofLocation location).suffix))

/-- The files of a target in order. A file that is named itself counts whatever its suffix. -/
def discover (tree : FileTree) (target : Target) : List Location :=
  let ignored := Ignore.isIgnored target.root target.config.ignored
  match tree.get? target.scan with
  | none => []
  | some (.file _) => if ignored target.scan then [] else [target.scan]
  | some directory =>
      let extensions := normalExtensions target.config.extensions
      let all := directory.filesIn skippedDirectories.contains target.scan
      let kept := all.filter fun location => hasExtension extensions location && !ignored location
      kept.eraseDups.mergeSort Location.le

/-! ## Inspecting files -/

/-- Inspects the file at a path. -/
def inspectFile [Library] (tree : FileTree) (cwd : Location) (inspector : Inspector) (path : Path) :
    Except LintError Inspection.Result := do
  let bytes ← tree.read cwd path
  Inspection.inspectBytes inspector path bytes

/-- What inspecting files has given: the files that are done, what was logged about them, and the
warnings or the error that ended the run. -/
structure Progress where
  /-- The files that are done, in order. -/
  done : List Location
  /-- The log messages about them. -/
  log : List String
  /-- All warnings, or the first error. -/
  outcome : Except LintError (List Warning)

/-- Takes the results of files in order up to the first error. -/
def deliver : List (Location × Except LintError Inspection.Result) → Progress
  | [] => ⟨[], [], .ok []⟩
  | (_, .error error) :: _ => ⟨[], [], .error error⟩
  | (location, .ok result) :: rest =>
      let later := deliver rest
      { done := location :: later.done
        log := Inspection.logMessage (.ofLocation location) result :: later.log
        outcome := later.outcome.map (result.warnings ++ ·) }

/-- Inspects files one after the other. -/
def lintSerially (inspect : Location → Except LintError Inspection.Result) (files : List Location) :
    Progress :=
  deliver (files.map fun location => (location, inspect location))

/-! ## Workers -/

/-- A file with its ordinal among the files to inspect. -/
abbrev Job := Location × Nat

/-- A pool of workers that inspect files, and a collector that takes their results in the order of
the files. -/
structure Pool where
  /-- The files that no worker has taken yet. -/
  waiting : List Job
  /-- The files that are being inspected. -/
  running : List Job := []
  /-- The results of the finished files under their ordinals, in the order of finishing. -/
  finished : List (Nat × Except LintError Inspection.Result) := []
  /-- The files whose results have yet to be collected. -/
  expected : List Job
  /-- What has been collected. Log messages are written when a file is finished. -/
  progress : Progress := ⟨[], [], .ok []⟩

namespace Pool

/-- The pool before the first step. -/
def start (files : List Location) : Pool where
  waiting := files.zipIdx
  expected := files.zipIdx

/-- A worker takes the first file that waits, unless `limit` workers are busy. -/
def take? (limit : Nat) (pool : Pool) : Option Pool :=
  match pool.waiting with
  | [] => none
  | job :: rest =>
      if pool.running.length < limit then
        some { pool with waiting := rest, running := pool.running ++ [job] }
      else none

/-- What is logged when a file is finished. -/
def logOf (location : Location) : Except LintError Inspection.Result → List String
  | .ok result => [Inspection.logMessage (.ofLocation location) result]
  | .error _ => []

/-- The worker of a file finishes it. -/
def finish (inspect : Location → Except LintError Inspection.Result) (pool : Pool) (job : Job) :
    Pool :=
  let result := inspect job.1
  { pool with
    running := pool.running.erase job
    finished := pool.finished ++ [(job.2, result)]
    progress := { pool.progress with log := pool.progress.log ++ logOf job.1 result } }

/-- The collector takes the warnings of the next file, and `rest` is left to be collected. -/
def gather (pool : Pool) (location : Location) (rest : List Job) (result : Inspection.Result) :
    Pool :=
  { pool with
    expected := rest
    progress := { pool.progress with
      done := pool.progress.done ++ [location]
      outcome := pool.progress.outcome.map (· ++ result.warnings) } }

/-- An error ends the collection, and files that still wait are not inspected any more. -/
def abandon (pool : Pool) (error : LintError) : Pool :=
  { pool with
    waiting := []
    expected := []
    progress := { pool.progress with outcome := .error error } }

/-- The collector takes the result of the next file, if that is finished. -/
def collect? (pool : Pool) : Option Pool :=
  match pool.expected with
  | [] => none
  | (location, ordinal) :: rest =>
      match pool.finished.lookup ordinal with
      | none => none
      | some (.ok result) => some (pool.gather location rest result)
      | some (.error error) => some (pool.abandon error)

/-- The pools that a step can lead to. -/
def nexts (inspect : Location → Except LintError Inspection.Result) (limit : Nat) (pool : Pool) :
    List Pool :=
  pool.collect?.toList ++ pool.running.map (pool.finish inspect) ++ (pool.take? limit).toList

/-- A bound on the number of steps that are left. -/
def remaining (pool : Pool) : Nat :=
  2 * pool.waiting.length + pool.running.length + pool.expected.length

section Steps

variable {inspect : Location → Except LintError Inspection.Result} {limit : Nat} {pool next : Pool}

theorem take?_eq_some (h : pool.take? limit = some next) :
    ∃ job rest, pool.waiting = job :: rest ∧ pool.running.length < limit ∧
      next = { pool with waiting := rest, running := pool.running ++ [job] } := by
  unfold take? at h
  split at h
  case h_1 => cases h
  case h_2 job rest hwaiting =>
      split at h
      · exact ⟨job, rest, hwaiting, ‹_›, (Option.some.inj h).symm⟩
      · cases h

theorem collect?_eq_some (h : pool.collect? = some next) :
    ∃ location ordinal rest, pool.expected = (location, ordinal) :: rest ∧
      ((∃ result, pool.finished.lookup ordinal = some (.ok result) ∧
          next = pool.gather location rest result) ∨
        ∃ error, pool.finished.lookup ordinal = some (.error error) ∧
          next = pool.abandon error) := by
  unfold collect? at h
  split at h
  case h_1 => cases h
  case h_2 location ordinal rest hexpected =>
      refine ⟨location, ordinal, rest, hexpected, ?_⟩
      split at h
      case h_1 => cases h
      case h_2 result hresult => exact .inl ⟨result, hresult, (Option.some.inj h).symm⟩
      case h_3 error herror => exact .inr ⟨error, herror, (Option.some.inj h).symm⟩

/-- A step is the collector's, or that of a worker who finishes a file or takes one. -/
theorem mem_nexts : next ∈ pool.nexts inspect limit ↔
    pool.collect? = some next ∨ (∃ job ∈ pool.running, pool.finish inspect job = next) ∨
      pool.take? limit = some next := by
  simp [nexts]

/-- Every step leaves fewer steps. -/
theorem remaining_lt (h : next ∈ pool.nexts inspect limit) : next.remaining < pool.remaining := by
  rcases mem_nexts.mp h with h | ⟨job, hjob, rfl⟩ | h
  · obtain ⟨location, ordinal, rest, hexpected, ⟨result, -, rfl⟩ | ⟨error, -, rfl⟩⟩ :=
      collect?_eq_some h
    · simp [remaining, gather, hexpected]
    · simp only [remaining, abandon, hexpected, List.length_cons, List.length_nil]
      omega
  · have hlength := List.length_erase_of_mem hjob
    have hpos := List.length_pos_of_mem hjob
    simp only [remaining, finish]
    omega
  · obtain ⟨job, rest, hwaiting, -, rfl⟩ := take?_eq_some h
    simp only [remaining, hwaiting, List.length_cons, List.length_append, List.length_nil]
    omega

end Steps

/-- The step that a number picks; one that is too large picks the first step. -/
def pick (first : Pool) (others : List Pool) (number : Nat) : Pool :=
  (first :: others)[number]?.getD first

theorem pick_mem (first : Pool) (others : List Pool) (number : Nat) :
    pick first others number ∈ first :: others := by
  unfold pick
  cases h : (first :: others)[number]? with
  | none => exact List.mem_cons_self
  | some next => exact List.mem_of_getElem? h

/-- Takes steps as long as there are any. When several are possible, the first number of the
schedule says which one is taken, and the others say how to go on. -/
def run (inspect : Location → Except LintError Inspection.Result) (limit : Nat)
    (schedule : Nat → Nat) (pool : Pool) : Pool :=
  match h : pool.nexts inspect limit with
  | [] => pool
  | first :: others =>
      run inspect limit (fun time => schedule (time + 1)) (pick first others (schedule 0))
termination_by pool.remaining
decreasing_by exact remaining_lt (h ▸ pick_mem first others (schedule 0))

end Pool

/-- Inspects files by workers, `limit` at a time, whose steps follow a schedule. -/
def lintInParallel (inspect : Location → Except LintError Inspection.Result)
    (files : List Location) (limit : Nat) (schedule : Nat → Nat) : Progress :=
  ((Pool.start files).run inspect limit schedule).progress

/-- Inspects the files of a target with the given number of workers, whose steps follow a
schedule. -/
def lintScheduled [Library] (schedule : Nat → Nat) (tree : FileTree) (cwd : Location)
    (target : Target) (files : List Location) (workers : Int) : Progress :=
  let inspect (location : Location) : Except LintError Inspection.Result :=
    inspectFile tree cwd target.config.inspector (.ofLocation location)
  if workers ≤ 1 || files.length ≤ 1 then lintSerially inspect files
  else lintInParallel inspect files (min workers.toNat files.length) schedule

/-- Inspects the files of a target with the given number of workers. Results are collected as soon
as they are there, and a worker takes a file only when no other step is possible. -/
def lintFiles [Library] (tree : FileTree) (cwd : Location) (target : Target)
    (files : List Location) (workers : Int) : Progress :=
  lintScheduled (fun _ => 0) tree cwd target files workers

end Lint

end ChannelLint
