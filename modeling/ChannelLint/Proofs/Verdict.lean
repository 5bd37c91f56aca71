import ChannelLint.Program
import ChannelLint.Proofs.ParallelLinting
import ChannelLint.Proofs.WarningLines

/-!
# The verdict of a run

`verdict` says what `lint` comes to for a project: an exit code, or the error that ends the run. It
knows nothing of formats, settings and workers. The main theorem,
`Program.lint_verdict_of_writable`, says that however a run is carried out and shown, which is a
`Showing`, it works on the same files and warnings, and ends with this verdict provided that the
fields of the warnings can be written. Files are linted with or without a progress bar, and
`Program.lint_with_bar_eq` says that both find the same. A report reads more of a warning than the
verdict does, so the exit code rests on `Program.report_text_ok`: nothing else can go wrong when a
report is made. Without the condition the formats differ: `Program.unwritable_field`.
-/

namespace ChannelLint

/-! ## Writable fields -/

namespace Table

/-- Putting a value at a key leaves all other keys as they are. -/
theorem get?_put_of_ne {key other : String} (h : key ≠ other) (value : Value) (entries : Table) :
    get? key (put other value entries) = get? key entries := by
  fun_induction put other value entries with
  | case1 => simp [get?, h.symm]
  | case2 k v rest hk =>
      obtain rfl : k = other := by simpa using hk
      simp [get?, h.symm]
  | case3 k v rest hk ih => simp [get?, ih]

/-- Putting values leaves all other keys as they are. -/
theorem get?_put_all_of_not_mem {key : String} {new : Table} (h : key ∉ new.map Prod.fst)
    (entries : Table) : get? key (putAll entries new) = get? key entries := by
  induction new generalizing entries with
  | nil => rfl
  | cons entry new ih =>
      simp only [List.map_cons, List.mem_cons, not_or] at h
      exact (ih h.2 _).trans (get?_put_of_ne h.1 entry.2 entries)

/-- A value in a table that can be written can be written. -/
theorem is_writable_of_get? {key : String} {value : Value} {entries : Table}
    (hentries : entriesAreWritable entries = true) (h : get? key entries = some value) :
    value.isWritable = true := by
  fun_induction get? key entries with
  | case1 => cases h
  | case2 k v rest hk =>
      cases h
      exact (Bool.and_eq_true_iff.mp hentries).1
  | case3 k v rest hk ih => exact ih (Bool.and_eq_true_iff.mp hentries).2 h

end Table

/-- The fields of a rule that reports show are fields of its warnings. -/
theorem Warning.get?_to_table (warning : Warning) (path : String) {field : String}
    (h : field ∈ ["id", "message", "severity"]) :
    Table.get? field (warning.toTable path) = Table.get? field warning.rule.extra := by
  have hwarning : field ∉ ["path", "line", "match"] := by
    revert field
    decide
  have hrule : field ∉ ["pattern", "case_sensitive", "include_comments", "disabled"] := by
    revert field
    decide
  exact (Table.get?_put_all_of_not_mem hwarning _).trans (Table.get?_put_all_of_not_mem hrule _)

namespace Report

/-- The fields that a terminal report shows can be written if all fields can. -/
theorem writes_of_writable {warning : Warning} (h : warning.isWritable = true) {field : String}
    {showDetails : Bool} (hfield : field ∈ shownFields showDetails) :
    warning.rule.writes field = true := by
  have hshown : field ∈ ["id", "message", "severity"] := by
    cases showDetails <;> simp_all [shownFields]
  rw [Rule.writes, ← warning.get?_to_table warning.path.toString hshown]
  cases hvalue : Table.get? field (warning.toTable warning.path.toString) with
  | none => rfl
  | some value => exact Table.is_writable_of_get? h hvalue

/-! ## Reports that are made -/

section Made

variable {cwd : Location} {root : Path} {warnings : List Warning}
  (hnull : ∀ warning ∈ warnings, warning.path.hasNull = false ∧ root.hasNull = false)
include hnull

/-- Paths without null characters can be shown. -/
theorem with_paths_eq : withPaths cwd root warnings =
    .ok (warnings.map fun warning => (reportPath cwd warning.path root, warning)) := by
  induction warnings with
  | nil => rfl
  | cons warning rest ih =>
      obtain ⟨hhere, hrest⟩ := List.forall_mem_cons.mp hnull
      have hpath : shownPath cwd root warning = .ok (reportPath cwd warning.path root) := by
        rw [shownPath, hhere.1, hhere.2]
        rfl
      rw [withPaths, hpath, ih hrest]
      rfl

variable (hwritable : ∀ warning ∈ warnings, warning.isWritable = true)
include hwritable

/-- A JSON report on warnings that can be written. -/
theorem json_eq (filesScanned : Int) : json cwd root filesScanned warnings =
    .ok (Json.pretty (document filesScanned
      (warnings.map fun warning => (reportPath cwd warning.path root, warning)))) := by
  have hall : warnings.all Warning.isWritable = true := List.all_eq_true.mpr hwritable
  rw [json, with_paths_eq hnull, hall]
  rfl

/-- A terminal report on warnings that can be written. -/
theorem terminal_ok [Library] (tree : FileTree) (width : Nat) (filesScanned : Int)
    (showDetails : Bool) :
    ∃ lines, terminal tree cwd root width filesScanned showDetails warnings = .ok lines := by
  have hall : (warnings.all fun warning =>
      (shownFields showDetails).all warning.rule.writes) = true := by
    simp only [List.all_eq_true]
    intro warning hwarning field hfield
    exact writes_of_writable (hwritable warning hwarning) hfield
  cases showDetails with
  | false =>
      rw [terminal, hall]
      exact ⟨_, rfl⟩
  | true =>
      rw [terminal, hall, with_paths_eq hnull]
      exact ⟨_, rfl⟩

end Made

end Report

/-! ## Files that are inspected -/

namespace FileTree

mutual
/-- The files of a tree stand below it. -/
theorem initial_of_mem_files_in (skip : String → Bool) (here : Location) (tree : FileTree)
    {location : Location} (h : location ∈ filesIn skip here tree) : here <+: location := by
  match tree with
  | file bytes =>
      have hhere : location = here := by simpa [filesIn] using h
      exact hhere ▸ List.prefix_refl here
  | directory all => exact initial_of_mem_files_in_entries skip here all (by rwa [filesIn] at h)

/-- The files in the entries of a directory stand below it. -/
theorem initial_of_mem_files_in_entries (skip : String → Bool) (here : Location)
    (entries : List (String × FileTree)) {location : Location}
    (h : location ∈ filesInEntries skip here entries) : here <+: location := by
  match entries with
  | [] => simp [filesInEntries] at h
  | (name, tree) :: rest =>
      rw [filesInEntries, List.mem_append] at h
      rcases h with h | h
      · split at h
        · cases h
        · exact (List.prefix_append here [name]).trans
            (initial_of_mem_files_in skip (here ++ [name]) tree h)
      · exact initial_of_mem_files_in_entries skip here rest h
end

end FileTree

namespace Lint

/-- The root of a project lies at or above the location that it was looked for at. -/
theorem project_root_initial (tree : FileTree) (start : Location) :
    projectRoot tree start <+: start := by
  have hbase : (if tree.isDirectoryAt start then start else start.dropLast) <+: start := by
    split
    · exact List.prefix_refl start
    · exact List.dropLast_prefix start
  refine List.IsPrefix.trans ?_ hbase
  simp only [projectRoot]
  generalize (if tree.isDirectoryAt start then start else start.dropLast) = base
  cases hfind : (withParents base).find? (hasMarker tree) with
  | none => exact List.prefix_refl base
  | some root =>
      obtain ⟨count, -, rfl⟩ := List.mem_map.mp (List.mem_of_find?_eq_some hfind)
      exact List.take_prefix _ base

/-- The files of a target lie at or below the location that is looked at. -/
theorem scan_initial_of_mem_discover {tree : FileTree} {target : Target} {location : Location}
    (h : location ∈ discover tree target) : target.scan <+: location := by
  simp only [discover] at h
  split at h
  · cases h
  · split at h
    · cases h
    · obtain rfl : location = target.scan := by simpa using h
      exact List.prefix_refl _
  · rw [List.mem_mergeSort, List.mem_eraseDups, List.mem_filter] at h
    exact FileTree.initial_of_mem_files_in _ _ _ h.1

/-- A path that can be read holds no null character. -/
theorem null_of_read {tree : FileTree} {cwd : Location} {path : Path} {bytes : List UInt8}
    (h : tree.read cwd path = .ok bytes) : path.hasNull = false := by
  cases hnull : path.hasNull with
  | false => rfl
  | true => simp [FileTree.read, hnull] at h

/-- A warning on a file names its path, which could be read. -/
theorem path_of_inspect_file [Library] {tree : FileTree} {cwd : Location} {inspector : Inspector}
    {path : Path} {result : Inspection.Result}
    (h : inspectFile tree cwd inspector path = .ok result) {warning : Warning}
    (hmem : warning ∈ result.warnings) :
    warning.path = path ∧ path.hasNull = false := by
  obtain ⟨bytes, hread, hinspect⟩ := bind_eq_ok.mp h
  refine ⟨?_, null_of_read hread⟩
  rcases Inspection.warning_cases hinspect hmem with ⟨index, -, rfl⟩ | ⟨rule, -, hwarns⟩
  · rfl
  · obtain ⟨-, regex, -, hit, -, -, rfl⟩ := hwarns
    rfl

/-- However many workers inspect the files and in whatever order they finish them, what comes out is
what comes out when the files are inspected one after the other. -/
theorem lint_scheduled_outcome [Library] (schedule : Nat → Nat) (tree : FileTree) (cwd : Location)
    (target : Target) (files : List Location) (workers : Int) :
    (lintScheduled schedule tree cwd target files workers).outcome =
      (lintSerially (fun location =>
        inspectFile tree cwd target.config.inspector (.ofLocation location)) files).outcome :=
  ((lint_scheduled_settles schedule tree cwd target files workers).unique
    (lint_serially_settles _ files)).2

/-- A warning comes from one of the files. -/
theorem mem_outcome_serially {inspect : Location → Except LintError Inspection.Result}
    {files : List Location} {warnings : List Warning}
    (h : (lintSerially inspect files).outcome = .ok warnings) {warning : Warning}
    (hmem : warning ∈ warnings) :
    ∃ location ∈ files, ∃ result, inspect location = .ok result ∧ warning ∈ result.warnings := by
  rcases lint_serially_settles inspect files with ⟨results, hresults, -, houtcome⟩ | hfails
  · obtain rfl := Except.ok.inj (h.symm.trans houtcome)
    obtain ⟨result, hresult, hwarning⟩ := List.mem_flatMap.mp hmem
    have hinspected : .ok result ∈ files.map inspect := hresults ▸ List.mem_map_of_mem hresult
    obtain ⟨location, hlocation, hinspect⟩ := List.mem_map.mp hinspected
    exact ⟨location, hlocation, result, hinspect, hwarning⟩
  · obtain ⟨before, failing, after, error, -, -, -, -, herror⟩ := hfails
    cases h.symm.trans herror

end Lint

/-! ## The verdict -/

namespace Program

open CommandLine (Settings)

/-- How a run is carried out and shown. -/
structure Showing where
  /-- The width of the terminal. -/
  width : Nat
  /-- The configured number of workers. -/
  workers : Option String
  /-- The number of processors. -/
  processors : Option Int
  /-- The order in which the workers take their steps. -/
  schedule : Nat → Nat
  /-- The settings of the command line. -/
  settings : Settings
  /-- Where messages are logged. -/
  log : Log.Setup
  /-- The format as it was asked for. -/
  format : String
  known : (Format.ofText? format).isSome = true

namespace Showing

/-- The format of the report. -/
def reportFormat (showing : Showing) : Format :=
  (Format.ofText? showing.format).get showing.known

/-- What surrounds a run on the given files. -/
def surroundings (showing : Showing) (tree : FileTree) (cwd : Location) : Surroundings where
  tree := tree
  cwd := cwd
  width := showing.width
  workers := showing.workers
  processors := showing.processors
  schedule := showing.schedule

/-- What linting the project of a location finds in a run that is shown so. -/
def findings [Library] (showing : Showing) (tree : FileTree) (cwd scan : Location) :
    Except LintError Findings :=
  Program.findings (showing.surroundings tree cwd) showing.settings showing.reportFormat scan

/-- A run of `lint` that is shown so. -/
def lint [Library] (showing : Showing) (tree : FileTree) (cwd : Location) (path : Path)
    (failOn : String) : Except Failure Outcome :=
  Program.lint (showing.surroundings tree cwd) showing.settings showing.log path showing.format
    failOn

end Showing

/-- What a run works on: the target, the discovered files, and the warnings on these. -/
structure Inventory where
  /-- The target. -/
  target : Target
  /-- The discovered files. -/
  files : List Location
  /-- The warnings, or the error that ended inspecting. -/
  outcome : Except LintError (List Warning)

/-- What findings are about. -/
def Findings.inventory (found : Findings) : Inventory :=
  ⟨found.target, found.files, found.progress.outcome⟩

/-- The inventory of the project of a location, with its files inspected one after the other. -/
def inventory [Library] (tree : FileTree) (cwd scan : Location) : Except LintError Inventory := do
  let target ← Lint.prepare tree cwd scan none
  let files := Lint.discover tree target
  let progress := Lint.lintSerially
    (fun location => Lint.inspectFile tree cwd target.config.inspector (.ofLocation location)) files
  pure ⟨target, files, progress.outcome⟩

/-- All warnings of the project of a location, or the error that ends preparing or inspecting it. -/
def warningsOf [Library] (tree : FileTree) (cwd scan : Location) : Except LintError (List Warning)
    := do
  let found ← inventory tree cwd scan
  found.outcome

/-- The severity of the warning is the one to fail on, or graver. -/
def Reaches : FailOn → Warning → Prop
  | .never, _ => False
  | .from threshold, warning => threshold.rank ≤ Severity.rankOfName warning.rule.severity

instance (failOn : FailOn) (warning : Warning) : Decidable (Reaches failOn warning) :=
  match failOn with
  | .never => inferInstanceAs (Decidable False)
  | .from _ => inferInstanceAs (Decidable (_ ≤ _))

/-- The exit code for warnings or an error: two for a configuration error, one if a warning is grave
enough, zero if none is. Any other error has no exit code. -/
def codeOf (failOn : FailOn) : Except LintError (List Warning) → Except LintError Nat
  | .error (.config _) => .ok 2
  | .error error => .error error
  | .ok warnings => .ok (if ∃ warning ∈ warnings, Reaches failOn warning then 1 else 0)

/-- What `lint` comes to: an exit code, or the error that ends the run. -/
def verdict [Library] (tree : FileTree) (cwd : Location) (path : Path) (failOn : FailOn) :
    Except LintError Nat :=
  if path.hasNull then .error .nullInPath
  else codeOf failOn (warningsOf tree cwd (path.resolveFrom cwd))

/-- Warnings make a run fail if one of them is grave enough. -/
theorem fails_iff (failOn : FailOn) (warnings : List Warning) :
    failOn.fails (warnings.map fun warning => warning.rule.severity) = true ↔
      ∃ warning ∈ warnings, Reaches failOn warning := by
  cases failOn with
  | never => simp [FailOn.fails, Reaches]
  | «from» threshold => simp [FailOn.fails, Reaches]

/-- A run that ends with an error has the exit code of the error, or none. -/
theorem outcome_of_error_code [Library] (failOn : FailOn) (logged : String) (error : LintError) :
    (outcomeOfError logged error).map Outcome.exitCode =
      (codeOf failOn (.error error)).mapError .run := by
  cases error <;> rfl

variable {tree : FileTree} {cwd : Location}

/-- Linting finds the same with and without a progress bar. Only what is logged about the discovered
files differs, and the bar is moved on once for every file that is done. -/
theorem lint_with_bar_eq [Library] (surroundings : Surroundings) (scan : Location) :
    lintWithBar surroundings scan = (lintWithoutBar surroundings scan).map fun found =>
      { found with
        notice := ⟨Log.commandLineName, discoveryMessage found.files⟩
        advanced := some found.progress.done.length } := by
  unfold lintWithBar lintWithoutBar
  cases Lint.prepare surroundings.tree surroundings.cwd scan none <;> rfl

/-- When all files have been inspected, the progress bar has come to its end. -/
theorem lint_with_bar_advanced [Library] {surroundings : Surroundings} {scan : Location}
    {found : Findings} {warnings : List Warning} (h : lintWithBar surroundings scan = .ok found)
    (houtcome : found.progress.outcome = .ok warnings) :
    found.advanced = some found.files.length := by
  obtain ⟨target, -, h⟩ := bind_eq_ok.mp h
  obtain rfl := Except.ok.inj h
  rcases Lint.lint_scheduled_settles surroundings.schedule surroundings.tree surroundings.cwd target
    (Lint.discover surroundings.tree target) (workerCount surroundings) with hwarns | hfails
  · exact congrArg (fun done => some done.length) hwarns.done_eq
  · obtain ⟨-, -, -, error, -, -, -, -, herror⟩ := hfails
    cases houtcome.symm.trans herror

/-- What a run works on does not depend on how it is carried out and shown. -/
theorem findings_inventory [Library] (showing : Showing) (settings : Settings) (format : Format)
    (scan : Location) :
    (findings (showing.surroundings tree cwd) settings format scan).map Findings.inventory =
      inventory tree cwd scan := by
  have hwithout : (lintWithoutBar (showing.surroundings tree cwd) scan).map Findings.inventory =
      inventory tree cwd scan := by
    simp only [lintWithoutBar, inventory, Showing.surroundings]
    cases Lint.prepare tree cwd scan none with
    | error error => rfl
    | ok target =>
        have houtcome := Lint.lint_scheduled_outcome showing.schedule tree cwd target
          (Lint.discover tree target) (workerCount (showing.surroundings tree cwd))
        exact congrArg
          (fun outcome => Except.ok (Inventory.mk target (Lint.discover tree target) outcome))
          houtcome
  rw [findings, lint_with_bar_eq, ← hwithout]
  split
  · cases lintWithoutBar (showing.surroundings tree cwd) scan <;> rfl
  · rfl

/-- The warnings of a project name paths that hold no null character, and neither does its root. -/
theorem null_of_inventory [Library] {scan : Location} {found : Inventory} {warnings : List Warning}
    (h : inventory tree cwd scan = .ok found) (houtcome : found.outcome = .ok warnings)
    {warning : Warning} (hmem : warning ∈ warnings) :
    warning.path.hasNull = false ∧ (Path.ofLocation found.target.root).hasNull = false := by
  obtain ⟨target, htarget, heq⟩ := bind_eq_ok.mp h
  obtain rfl := Except.ok.inj heq
  obtain ⟨config, -, hprepared⟩ := bind_eq_ok.mp htarget
  obtain rfl := Except.ok.inj hprepared
  obtain ⟨location, hlocation, result, hinspect, hwarning⟩ :=
    Lint.mem_outcome_serially houtcome hmem
  obtain ⟨hpath, hnull⟩ := Lint.path_of_inspect_file hinspect hwarning
  refine ⟨hpath ▸ hnull, ?_⟩
  -- the root is a first part of the path of the file, which could be read
  have hroot : Lint.projectRoot tree scan <+: location :=
    (Lint.project_root_initial tree scan).trans (Lint.scan_initial_of_mem_discover hlocation)
  rw [Path.hasNull, List.any_eq_false] at hnull ⊢
  exact fun part hpart => hnull part (hroot.subset hpart)

/-- A report on warnings that can be written is made in every format. -/
theorem report_text_ok [Library] (showing : Showing) (format : Format) {scan : Location}
    {found : Findings} {warnings : List Warning} (h : inventory tree cwd scan = .ok found.inventory)
    (houtcome : found.progress.outcome = .ok warnings)
    (hwritable : ∀ warning ∈ warnings, warning.isWritable = true) :
    ∃ text, reportText (showing.surroundings tree cwd) showing.settings format found warnings =
      .ok text := by
  have hnull : ∀ warning ∈ warnings, warning.path.hasNull = false ∧
      (Path.ofLocation found.target.root).hasNull = false :=
    fun warning hwarning => null_of_inventory h houtcome hwarning
  cases format with
  | json =>
      exact ⟨_, congrArg (Except.map (· ++ "\n")) (Report.json_eq hnull hwritable _)⟩
  | terminal =>
      obtain ⟨lines, hlines⟩ : ∃ lines, Report.terminal tree cwd (.ofLocation found.target.root)
          showing.width found.files.length (!showing.settings.quiet) warnings = .ok lines :=
        Report.terminal_ok hnull hwritable ..
      exact ⟨linesText lines, congrArg (Except.map linesText) hlines⟩

/-- A run ends with the exit code or the error of the warnings of its project, however it is shown,
if these can be written. -/
theorem lint_as_exit_code [Library] (showing : Showing) (format : Format) {scan : Location}
    (failOn : FailOn) (hwritable : ∀ warnings, warningsOf tree cwd scan = .ok warnings →
      ∀ warning ∈ warnings, warning.isWritable = true) :
    (lintAs (showing.surroundings tree cwd) showing.settings showing.log scan format failOn).map
        Outcome.exitCode =
      (codeOf failOn (warningsOf tree cwd scan)).mapError .run := by
  have hinventory : _ = inventory tree cwd scan :=
    findings_inventory showing showing.settings format scan
  cases hfindings : findings (showing.surroundings tree cwd) showing.settings format scan with
  | error error =>
      rw [hfindings] at hinventory
      have hwarnings : warningsOf tree cwd scan = .error error := by
        rw [warningsOf, ← hinventory]
        rfl
      simp only [lintAs, hfindings, hwarnings]
      exact outcome_of_error_code failOn "" error
  | ok found =>
      rw [hfindings] at hinventory
      have hwarnings : warningsOf tree cwd scan = found.progress.outcome := by
        rw [warningsOf, ← hinventory]
        rfl
      cases houtcome : found.progress.outcome with
      | error error =>
          simp only [lintAs, hfindings, hwarnings, houtcome]
          exact outcome_of_error_code failOn _ error
      | ok warnings =>
          obtain ⟨text, htext⟩ := report_text_ok showing format hinventory.symm houtcome
            (hwritable warnings (hwarnings.trans houtcome))
          simp only [lintAs, hfindings, hwarnings, houtcome, htext]
          exact congrArg Except.ok (if_congr (fails_iff failOn warnings) rfl rfl)

/-- Every run ends with the verdict on its project if the warnings can be written. -/
theorem lint_exit_code [Library] (showing : Showing) {path : Path} {failOn : String}
    {choice : FailOn} (hchoice : FailOn.ofName? (normalChoice failOn) = some choice)
    (hwritable : ∀ warnings, warningsOf tree cwd (path.resolveFrom cwd) = .ok warnings →
      ∀ warning ∈ warnings, warning.isWritable = true) :
    (showing.lint tree cwd path failOn).map Outcome.exitCode =
      (verdict tree cwd path choice).mapError .run := by
  obtain ⟨format, hformat⟩ := Option.isSome_iff_exists.mp showing.known
  have hchoices : readChoices showing.format failOn = .ok (format, choice) := by
    simp only [readChoices, hformat, hchoice]
  simp only [Showing.lint, lint, hchoices, verdict]
  cases path.hasNull with
  | true => rfl
  | false => exact lint_as_exit_code showing format choice hwritable

/-- Two runs of `lint` on the same files, in any formats, with any settings and any workers, work on
the same target, files and warnings. They end with the same exit code or the same error, which is
the verdict on the project, provided that all fields of the warnings can be written. -/
theorem lint_verdict_of_writable [Library] (tree : FileTree) (cwd : Location) (path : Path)
    {failOn : String} {choice : FailOn}
    (hchoice : FailOn.ofName? (normalChoice failOn) = some choice) (first second : Showing) :
    (first.findings tree cwd (path.resolveFrom cwd)).map Findings.inventory =
        (second.findings tree cwd (path.resolveFrom cwd)).map Findings.inventory ∧
      ((∀ warnings, warningsOf tree cwd (path.resolveFrom cwd) = .ok warnings →
          ∀ warning ∈ warnings, warning.isWritable = true) →
        (first.lint tree cwd path failOn).map Outcome.exitCode =
          (second.lint tree cwd path failOn).map Outcome.exitCode ∧
        (first.lint tree cwd path failOn).map Outcome.exitCode =
          (verdict tree cwd path choice).mapError .run) := by
  refine ⟨(findings_inventory first _ _ _).trans (findings_inventory second _ _ _).symm, ?_⟩
  intro hwritable
  have hfirst := lint_exit_code first hchoice hwritable
  have hsecond := lint_exit_code second hchoice hwritable
  exact ⟨hfirst.trans hsecond.symm, hfirst⟩

instance decidableEqExcept {ε α : Type} [DecidableEq ε] [DecidableEq α] :
    DecidableEq (Except ε α)
  | .ok a, .ok b => decidable_of_iff (a = b) (by simp)
  | .error a, .error b => decidable_of_iff (a = b) (by simp)
  | .ok _, .error _ | .error _, .ok _ => isFalse nofun

/-- The bytes of an ASCII text. -/
def asciiBytes (text : List Char) : List UInt8 :=
  text.map fun c => c.toNat.toUInt8

/-- A directory with a file that has a warning, linted with several workers allowed for a JSON
report, and with one worker for a quiet terminal. -/
theorem lint_verdict_of_stop :
    let tree := FileTree.directory [("a.brs", .file (asciiBytes "stop\n".toList))]
    let path := Path.ofString "."
    let json : Showing := ⟨100, some "4", none, fun time => time, {}, {}, "json", rfl⟩
    let quiet : Showing := ⟨80, some "1", none, fun _ => 0, { quiet := true }, {}, "terminal", rfl⟩
    FailOn.ofName? (normalChoice "Info") = some (.from .info) ∧
      (∀ warnings, warningsOf tree [] (path.resolveFrom []) = .ok warnings →
        ∀ warning ∈ warnings, warning.isWritable = true) ∧
      (json.lint tree [] path "Info").map Outcome.exitCode = .ok 1 ∧
      (quiet.lint tree [] path "Info").map Outcome.exitCode = .ok 1 := by
  intro tree path json quiet
  have hchoice : FailOn.ofName? (normalChoice "Info") = some (.from .info) := by decide +kernel
  have hall : (warningsOf tree [] (path.resolveFrom [])).toOption.all (·.all Warning.isWritable) =
      true := by decide +kernel
  have hwritable : ∀ warnings, warningsOf tree [] (path.resolveFrom []) = .ok warnings →
      ∀ warning ∈ warnings, warning.isWritable = true := by
    intro warnings hwarnings
    rw [hwarnings] at hall
    exact List.all_eq_true.mp hall
  have hverdict : (verdict tree [] path (.from .info)).mapError Failure.run = .ok 1 := by
    decide +kernel
  obtain ⟨hsame, hcode⟩ := (lint_verdict_of_writable tree [] path hchoice json quiet).2 hwritable
  exact ⟨hchoice, hwritable, hcode.trans hverdict, hsame.symm.trans (hcode.trans hverdict)⟩

/-- A rule that finds something has a further field with a hexadecimal integer of more than 4300
decimal digits. The terminal report does not show it, and the run fails because of the warning; the
JSON report is not made, and the run has no exit code. -/
theorem unwritable_field :
    let config := "[[rules]]\npattern = \"stop\"\nref = 0x1".toList ++ List.replicate 3572 '0'
    let tree := FileTree.directory
      [(".brslint.toml", .file (asciiBytes config)), ("a.brs", .file (asciiBytes "stop\n".toList))]
    let path := Path.ofString "."
    let json : Showing := ⟨100, none, none, fun _ => 0, {}, {}, "json", rfl⟩
    let terminal : Showing := ⟨100, none, none, fun _ => 0, {}, {}, "terminal", rfl⟩
    (terminal.lint tree [] path "info").map Outcome.exitCode = .ok 1 ∧
      (json.lint tree [] path "info").map Outcome.exitCode = .error (.run .integerTooLong) := by
  decide +kernel

end Program

end ChannelLint
