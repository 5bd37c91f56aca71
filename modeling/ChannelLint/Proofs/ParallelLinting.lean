import ChannelLint.Lint
import Mathlib.Logic.Relation
import Mathlib.Tactic.Tauto

/-!
# Linting by several workers

Workers take files in order but finish them in any order, and a run of the pool is one of many
interleavings of their steps with those of the collector. A schedule stands for one of them, and
there is a schedule for each (`Pool.exists_schedule`).

`Warns` and `Fails` say what inspecting a list of files comes to, without regard to how it is
done, and they leave no choice (`Settles.unique`). Inspecting the files one after the other settles
them. That a run of the pool settles them as well rests on an invariant, `Pool.Sound`, which each
step keeps: results are kept under the ordinals of their files, and the collector has settled the
files before those that it expects. `lint_scheduled_eq_serial` compares the two.
-/

namespace ChannelLint.Lint

variable {inspect : Location → Except LintError Inspection.Result} {files : List Location}

/-! ## What inspecting files comes to -/

/-- Every file could be inspected: the warnings are those of each file in the order of the
files. -/
def Warns (inspect : Location → Except LintError Inspection.Result) (files : List Location)
    (progress : Progress) : Prop :=
  ∃ results : List Inspection.Result, files.map inspect = results.map .ok ∧
    progress.done = files ∧ progress.outcome = .ok (results.flatMap (·.warnings))

/-- Some file could not be inspected: the error is that of the first such file, and the files
before it are done. -/
def Fails (inspect : Location → Except LintError Inspection.Result) (files : List Location)
    (progress : Progress) : Prop :=
  ∃ before failing after error, files = before ++ failing :: after ∧
    (∀ location ∈ before, ∃ result, inspect location = .ok result) ∧
    inspect failing = .error error ∧ progress.done = before ∧ progress.outcome = .error error

/-- The files were inspected up to the first that fails, if there is one. -/
def Settles (inspect : Location → Except LintError Inspection.Result) (files : List Location)
    (progress : Progress) : Prop :=
  Warns inspect files progress ∨ Fails inspect files progress

theorem Warns.inspected {progress : Progress} (h : Warns inspect files progress) :
    ∀ location ∈ files, ∃ result, inspect location = .ok result := by
  obtain ⟨results, hresults, -, -⟩ := h
  intro location hlocation
  have hmem : inspect location ∈ results.map .ok := hresults ▸ List.mem_map_of_mem hlocation
  obtain ⟨result, -, hresult⟩ := List.mem_map.mp hmem
  exact ⟨result, hresult.symm⟩

theorem Warns.done_eq {progress : Progress} (h : Warns inspect files progress) :
    progress.done = files := by
  obtain ⟨-, -, hdone, -⟩ := h
  exact hdone

theorem Warns.unique {left right : Progress} (hleft : Warns inspect files left)
    (hright : Warns inspect files right) :
    left.done = right.done ∧ left.outcome = right.outcome := by
  obtain ⟨results, hresults, hdone, houtcome⟩ := hleft
  obtain ⟨results', hresults', hdone', houtcome'⟩ := hright
  have hsame : results = results' :=
    (List.map_inj_right fun _ _ => Except.ok.inj).mp (hresults.symm.trans hresults')
  exact ⟨hdone.trans hdone'.symm, by rw [houtcome, houtcome', hsame]⟩

/-- The first failing file is determined. -/
theorem first_failing_unique {before before' after after' : List Location}
    {failing failing' : Location} {error error' : LintError}
    (h : before ++ failing :: after = before' ++ failing' :: after')
    (hbefore : ∀ location ∈ before, ∃ result, inspect location = .ok result)
    (hbefore' : ∀ location ∈ before', ∃ result, inspect location = .ok result)
    (hfailing : inspect failing = .error error) (hfailing' : inspect failing' = .error error') :
    before = before' ∧ error = error' := by
  -- Both lists walk along the same files, so the shorter one would end at a file that the other
  -- says could be inspected.
  induction before generalizing before' with
  | nil =>
      cases before' with
      | nil =>
          obtain ⟨rfl, -⟩ := List.cons.inj h
          exact ⟨rfl, Except.error.inj (hfailing.symm.trans hfailing')⟩
      | cons location rest =>
          obtain ⟨rfl, -⟩ := List.cons.inj h
          obtain ⟨result, hresult⟩ := hbefore' failing List.mem_cons_self
          cases hfailing.symm.trans hresult
  | cons location rest ih =>
      cases before' with
      | nil =>
          obtain ⟨rfl, -⟩ := List.cons.inj h
          obtain ⟨result, hresult⟩ := hbefore location List.mem_cons_self
          cases hfailing'.symm.trans hresult
      | cons location' rest' =>
          obtain ⟨rfl, hrest⟩ := List.cons.inj h
          obtain ⟨rfl, herror⟩ := ih hrest (fun l hl => hbefore l (List.mem_cons_of_mem _ hl))
            (fun l hl => hbefore' l (List.mem_cons_of_mem _ hl))
          exact ⟨rfl, herror⟩

theorem Fails.unique {left right : Progress} (hleft : Fails inspect files left)
    (hright : Fails inspect files right) :
    left.done = right.done ∧ left.outcome = right.outcome := by
  obtain ⟨before, failing, after, error, hfiles, hbefore, herror, hdone, houtcome⟩ := hleft
  obtain ⟨before', failing', after', error', hfiles', hbefore', herror', hdone', houtcome'⟩ :=
    hright
  obtain ⟨rfl, rfl⟩ :=
    first_failing_unique (hfiles.symm.trans hfiles') hbefore hbefore' herror herror'
  exact ⟨hdone.trans hdone'.symm, houtcome.trans houtcome'.symm⟩

theorem Warns.not_fails {left right : Progress} (hleft : Warns inspect files left) :
    ¬Fails inspect files right := by
  rintro ⟨before, failing, after, error, rfl, -, herror, -, -⟩
  obtain ⟨result, hresult⟩ := hleft.inspected failing (by simp)
  cases herror.symm.trans hresult

/-- The files determine which of them are done and what comes out. -/
theorem Settles.unique {left right : Progress} (hleft : Settles inspect files left)
    (hright : Settles inspect files right) :
    left.done = right.done ∧ left.outcome = right.outcome := by
  rcases hleft with hleft | hleft <;> rcases hright with hright | hright
  · exact hleft.unique hright
  · exact absurd hright hleft.not_fails
  · exact absurd hleft hright.not_fails
  · exact hleft.unique hright

/-- Inspecting files one after the other settles them. -/
theorem lint_serially_settles (inspect : Location → Except LintError Inspection.Result)
    (files : List Location) : Settles inspect files (lintSerially inspect files) := by
  induction files with
  | nil => exact .inl ⟨[], rfl, rfl, rfl⟩
  | cons location rest ih =>
      cases hlocation : inspect location with
      | error error =>
          refine .inr ⟨[], location, rest, error, rfl, by simp, hlocation, ?_, ?_⟩ <;>
            simp [lintSerially, deliver, hlocation]
      | ok result =>
          have hprogress : lintSerially inspect (location :: rest) =
              { done := location :: (lintSerially inspect rest).done
                log := Inspection.logMessage (.ofLocation location) result ::
                  (lintSerially inspect rest).log
                outcome := (lintSerially inspect rest).outcome.map (result.warnings ++ ·) } := by
            simp [lintSerially, deliver, hlocation]
          rw [hprogress]
          rcases ih with ⟨results, hresults, hdone, houtcome⟩ |
            ⟨before, failing, after, error, hrest, hbefore, herror, hdone, houtcome⟩
          · refine .inl ⟨result :: results, ?_, ?_, ?_⟩
            · simp only [List.map_cons, hlocation, hresults]
            · simp only [hdone]
            · simp only [houtcome, Except.map, List.flatMap_cons]
          · refine .inr ⟨location :: before, failing, after, error, ?_, ?_, herror, ?_, ?_⟩
            · simp only [hrest, List.cons_append]
            · simpa [hlocation] using hbefore
            · simp only [hdone]
            · simp only [houtcome, Except.map]

namespace Pool

variable {limit : Nat} {pool next : Pool}

/-! ## The invariant -/

/-- What holds of a pool that inspects `files` at any time. -/
structure Sound (inspect : Location → Except LintError Inspection.Result) (files : List Location)
    (pool : Pool) : Prop where
  /-- Every file is known by its ordinal. -/
  ordinals : ∀ job ∈ pool.waiting ++ pool.running ++ pool.expected, files[job.2]? = some job.1
  /-- Under every ordinal stands the result of its file. -/
  results : ∀ entry ∈ pool.finished, files[entry.1]?.map inspect = some entry.2
  /-- No file is lost before its result is collected. -/
  accounted : ∀ job ∈ pool.expected,
    job ∈ pool.waiting ∨ job ∈ pool.running ∨ ∃ result, (job.2, result) ∈ pool.finished
  /-- The files before the expected ones are settled, or else one of them failed. -/
  collected : (∃ before, files = before ++ pool.expected.map Prod.fst ∧
      Warns inspect before pool.progress) ∨
    pool.expected = [] ∧ Fails inspect files pool.progress

theorem start_sound (inspect : Location → Except LintError Inspection.Result)
    (files : List Location) : (start files).Sound inspect files where
  ordinals job hjob := by
    simp only [start, List.append_nil, List.mem_append, or_self] at hjob
    exact List.mk_mem_zipIdx_iff_getElem?.mp hjob
  results entry hentry := by simp [start] at hentry
  accounted job hjob := .inl hjob
  collected := .inl ⟨[], by simp [start], [], rfl, rfl, rfl⟩

/-- The entry that the collector finds is the result of the file that it expects. -/
theorem Sound.inspect_of_lookup (h : pool.Sound inspect files) {location : Location} {ordinal : Nat}
    {rest : List Job} {result : Except LintError Inspection.Result}
    (hexpected : pool.expected = (location, ordinal) :: rest)
    (hlookup : pool.finished.lookup ordinal = some result) : inspect location = result := by
  have hfile : files[ordinal]? = some location :=
    h.ordinals (location, ordinal) (by simp [hexpected])
  obtain ⟨earlier, later, hfinished, -⟩ := List.lookup_eq_some_iff.mp hlookup
  have hresult := h.results (ordinal, result) (by simp [hfinished])
  simpa [hfile] using hresult

theorem Sound.gather (h : pool.Sound inspect files) {location : Location} {ordinal : Nat}
    {rest : List Job} {result : Inspection.Result}
    (hexpected : pool.expected = (location, ordinal) :: rest)
    (hresult : inspect location = .ok result) :
    (pool.gather location rest result).Sound inspect files where
  ordinals job hjob := by
    apply h.ordinals
    simp only [Pool.gather, List.mem_append, hexpected, List.mem_cons] at hjob ⊢
    exact hjob.imp_right .inr
  results := h.results
  accounted job hjob := h.accounted job (by rw [hexpected]; exact List.mem_cons_of_mem _ hjob)
  collected := by
    rcases h.collected with ⟨before, hfiles, results, hresults, hdone, houtcome⟩ | ⟨hnone, -⟩
    · refine .inl ⟨before ++ [location], ?_, results ++ [result], ?_, ?_, ?_⟩
      · simp [hfiles, hexpected, Pool.gather]
      · simp [hresults, hresult]
      · simp [Pool.gather, hdone]
      · simp [Pool.gather, houtcome, Except.map]
    · cases hexpected.symm.trans hnone

theorem Sound.abandon (h : pool.Sound inspect files) {location : Location} {ordinal : Nat}
    {rest : List Job} {error : LintError} (hexpected : pool.expected = (location, ordinal) :: rest)
    (herror : inspect location = .error error) : (pool.abandon error).Sound inspect files where
  ordinals job hjob := by
    apply h.ordinals
    simp only [Pool.abandon, List.nil_append, List.append_nil, List.mem_append] at hjob ⊢
    exact .inl (.inr hjob)
  results := h.results
  accounted job hjob := by simp [Pool.abandon] at hjob
  collected := by
    -- The expected file is the first that fails, because all files before it were collected.
    rcases h.collected with ⟨before, hfiles, hwarns⟩ | ⟨hnone, -⟩
    · refine .inr ⟨rfl, before, location, rest.map Prod.fst, error, ?_, hwarns.inspected, herror,
        hwarns.done_eq, rfl⟩
      simp [hfiles, hexpected]
    · cases hexpected.symm.trans hnone

theorem Sound.finish (h : pool.Sound inspect files) {job : Job} (hjob : job ∈ pool.running) :
    (pool.finish inspect job).Sound inspect files where
  ordinals other hother := by
    apply h.ordinals
    simp only [Pool.finish, List.mem_append] at hother ⊢
    exact hother.imp_left (Or.imp_right List.mem_of_mem_erase)
  results entry hentry := by
    rcases List.mem_append.mp hentry with hentry | hentry
    · exact h.results entry hentry
    · have hfile := h.ordinals job (by simp [hjob])
      simp [List.mem_singleton.mp hentry, hfile]
  accounted other hother := by
    simp only [Pool.finish, List.mem_append, List.mem_singleton, Prod.mk.injEq]
    rcases h.accounted other hother with hwaiting | hrunning | ⟨result, hresult⟩
    · exact .inl hwaiting
    · by_cases hsame : other = job
      · exact .inr (.inr ⟨inspect job.1, .inr ⟨by rw [hsame], rfl⟩⟩)
      · exact .inr (.inl ((List.mem_erase_of_ne hsame).mpr hrunning))
    · exact .inr (.inr ⟨result, .inl hresult⟩)
  collected := h.collected

theorem Sound.take {job : Job} {rest : List Job} (h : pool.Sound inspect files)
    (hwaiting : pool.waiting = job :: rest) :
    Sound inspect files { pool with waiting := rest, running := pool.running ++ [job] } where
  ordinals other hother := by
    apply h.ordinals
    simp only [List.mem_append, hwaiting, List.mem_cons] at hother ⊢
    tauto
  results := h.results
  accounted other hother := by
    have haccounted := h.accounted other hother
    simp only [hwaiting, List.mem_append, List.mem_cons] at haccounted ⊢
    tauto
  collected := h.collected

/-- Every step keeps the invariant, whoever takes it. -/
theorem Sound.step (h : pool.Sound inspect files) (hnext : next ∈ pool.nexts inspect limit) :
    next.Sound inspect files := by
  rcases mem_nexts.mp hnext with hcollect | ⟨job, hjob, rfl⟩ | htake
  · obtain ⟨location, ordinal, rest, hexpected, ⟨result, hlookup, rfl⟩ | ⟨error, hlookup, rfl⟩⟩ :=
      collect?_eq_some hcollect
    · exact h.gather hexpected (h.inspect_of_lookup hexpected hlookup)
    · exact h.abandon hexpected (h.inspect_of_lookup hexpected hlookup)
  · exact h.finish hjob
  · obtain ⟨job, rest, hwaiting, -, rfl⟩ := take?_eq_some htake
    exact h.take hwaiting

/-! ## Runs -/

/-- A run keeps the invariant and ends where no step is possible. -/
theorem Sound.run (limit : Nat) (schedule : Nat → Nat) (h : pool.Sound inspect files) :
    (pool.run inspect limit schedule).Sound inspect files ∧
      (pool.run inspect limit schedule).nexts inspect limit = [] := by
  fun_induction Pool.run inspect limit schedule pool with
  | case1 schedule pool hnone => exact ⟨h, hnone⟩
  | case2 schedule pool first others hnexts ih =>
      exact ih (h.step (hnexts ▸ pick_mem first others (schedule 0)))

/-- A pool is not stuck: as long as results are expected, some step is possible. -/
theorem Sound.expected_eq_nil (h : pool.Sound inspect files) (hlimit : 0 < limit)
    (hnexts : pool.nexts inspect limit = []) : pool.expected = [] := by
  simp only [nexts, List.append_eq_nil_iff, Option.toList_eq_nil_iff, List.map_eq_nil_iff] at hnexts
  obtain ⟨⟨hcollect, hrunning⟩, htake⟩ := hnexts
  have hwaiting : pool.waiting = [] := by
    cases hwaiting : pool.waiting with
    | nil => rfl
    | cons job rest => simp [take?, hwaiting, hrunning, hlimit] at htake
  cases hexpected : pool.expected with
  | nil => rfl
  | cons job rest =>
      obtain ⟨result, hresult⟩ : ∃ result, (job.2, result) ∈ pool.finished := by
        simpa [hwaiting, hrunning] using h.accounted job (by simp [hexpected])
      cases hlookup : pool.finished.lookup job.2 with
      | none =>
          have hother := List.lookup_eq_none_iff.mp hlookup (job.2, result) hresult
          simp at hother
      | some found => cases found <;> simp [collect?, hexpected, hlookup] at hcollect

/-- However the workers are scheduled, the files are settled. -/
theorem run_settles (files : List Location) (schedule : Nat → Nat) (hlimit : 0 < limit) :
    Settles inspect files ((start files).run inspect limit schedule).progress := by
  obtain ⟨hsound, hnexts⟩ := (start_sound inspect files).run limit schedule
  have hexpected := hsound.expected_eq_nil hlimit hnexts
  rcases hsound.collected with ⟨before, hfiles, hwarns⟩ | ⟨-, hfails⟩
  · rw [hexpected, List.map_nil, List.append_nil] at hfiles
    exact .inl (hfiles ▸ hwarns)
  · exact .inr hfails

/-- Schedules miss no interleaving: if steps, one after the other, lead to a pool where none is
possible, then some schedule takes them. -/
theorem exists_schedule {last : Pool}
    (hsteps : Relation.ReflTransGen (fun pool next => next ∈ pool.nexts inspect limit) pool last)
    (hlast : last.nexts inspect limit = []) :
    ∃ schedule, pool.run inspect limit schedule = last := by
  induction hsteps using Relation.ReflTransGen.head_induction_on with
  | refl =>
      refine ⟨fun _ => 0, ?_⟩
      rw [run]
      split
      · rfl
      · simp_all
  | head hstep _ ih =>
      obtain ⟨schedule, hschedule⟩ := ih
      obtain ⟨number, hnumber⟩ := List.mem_iff_getElem?.mp hstep
      -- The schedule of the later steps is put off by one.
      refine ⟨fun time => if time = 0 then number else schedule (time - 1), ?_⟩
      rw [run]
      split
      case h_1 hnone => simp [hnone] at hnumber
      case h_2 first others hnexts =>
          rw [hnexts] at hnumber
          simpa [pick, hnumber] using hschedule

end Pool

/-- However many workers inspect the files of a target and in whatever order they finish them, the
files are settled. -/
theorem lint_scheduled_settles [Library] (schedule : Nat → Nat) (tree : FileTree) (cwd : Location)
    (target : Target) (files : List Location) (workers : Int) :
    Settles (fun location => inspectFile tree cwd target.config.inspector (.ofLocation location))
      files (lintScheduled schedule tree cwd target files workers) := by
  rw [lintScheduled]
  split
  case isTrue => exact lint_serially_settles _ files
  case isFalse hmany =>
      simp only [Bool.or_eq_true, decide_eq_true_eq, not_or] at hmany
      exact Pool.run_settles files schedule (by omega)

/-- However many workers inspect the files of a target and in whatever order they finish them, the
warnings or the error, and the files that are done, are those of a single worker: all warnings of
each file on its own in the order of the files, or the error of the first file that fails after the
files before it. -/
theorem lint_scheduled_eq_serial [Library] (schedule : Nat → Nat) (tree : FileTree) (cwd : Location)
    (target : Target) (files : List Location) (workers : Int) :
    let inspect (location : Location) :=
      inspectFile tree cwd target.config.inspector (.ofLocation location)
    let progress := lintScheduled schedule tree cwd target files workers
    let serial := lintFiles tree cwd target files 1
    progress.done = serial.done ∧ progress.outcome = serial.outcome ∧
      Settles inspect files progress := by
  intro inspect progress serial
  have hserial : Settles inspect files serial := lint_serially_settles inspect files
  have hprogress : Settles inspect files progress :=
    lint_scheduled_settles schedule tree cwd target files workers
  obtain ⟨hdone, houtcome⟩ := hprogress.unique hserial
  exact ⟨hdone, houtcome, hprogress⟩

end ChannelLint.Lint
