import ChannelLint.Proofs.ConfiguredRules

/-!
# Severities that are counted

A terminal report counts the warnings of each severity, and the verdict of a run compares severities
with the one to fail on. Both go by the text of a severity and have a rule of their own for texts that
name none. The main theorem, `Report.summary_agrees`, says that no warning of a configured run has such
a text, so that the printed counts add up and decide the verdict.
-/

namespace ChannelLint

/-- A severity is one of three. -/
theorem Severity.exists_iff {P : Severity → Prop} :
    (∃ severity, P severity) ↔ P .error ∨ P .warning ∨ P .info := by
  refine ⟨?_, ?_⟩
  · rintro ⟨severity, h⟩
    cases severity <;> simp [h]
  · rintro (h | h | h) <;> exact ⟨_, h⟩

/-- The rank of the name of a severity is its rank. -/
theorem Severity.rank_of_name (severity : Severity) : rankOfName severity.name = severity.rank := by
  cases severity <;> decide

/-- Different severities have different names. -/
theorem Severity.name_inj {first second : Severity} : first.name = second.name ↔ first = second := by
  cases first <;> cases second <;> decide

namespace Report

/-- A warning is counted under its severity only. -/
theorem count_of_cons (severity : Severity) {warning : Warning} {own : Severity}
    (h : warning.rule.severity = own.name) (warnings : List Warning) :
    countOf severity (warning :: warnings) =
      countOf severity warnings + if own = severity then 1 else 0 := by
  simp only [countOf, List.filter_cons, h, beq_iff_eq, Severity.name_inj]
  split <;> rfl

/-- A severity has a positive count if a warning has it. -/
theorem count_of_pos_iff {severity : Severity} {warnings : List Warning} :
    0 < countOf severity warnings ↔
      ∃ warning ∈ warnings, warning.rule.severity = severity.name := by
  simp [countOf, List.length_pos_iff, List.filter_eq_nil_iff]

section Ranked

variable {warnings : List Warning} (h : ∀ warning ∈ warnings, warning.rule.IsRanked)
include h

/-- Every warning is counted once. -/
theorem length_eq_counts : warnings.length =
    countOf .error warnings + countOf .warning warnings + countOf .info warnings := by
  induction warnings with
  | nil => rfl
  | cons warning rest ih =>
      obtain ⟨⟨own, hown⟩, hrest⟩ := List.forall_mem_cons.mp h
      simp only [List.length_cons, count_of_cons _ hown, ih hrest]
      cases own <;> simp <;> omega

/-- Warnings make a run fail if one is counted under a severity that is grave enough. -/
theorem fails_from_iff (threshold : Severity) :
    (FailOn.from threshold).fails (warnings.map fun warning => warning.rule.severity) = true ↔
      ∃ severity : Severity, threshold.rank ≤ severity.rank ∧ 0 < countOf severity warnings := by
  simp only [Program.fails_iff, Program.Reaches, count_of_pos_iff]
  constructor
  · rintro ⟨warning, hwarning, hreaches⟩
    obtain ⟨severity, hseverity⟩ := h warning hwarning
    rw [hseverity, severity.rank_of_name] at hreaches
    exact ⟨severity, hreaches, warning, hwarning, hseverity⟩
  · rintro ⟨severity, hrank, warning, hwarning, hseverity⟩
    exact ⟨warning, hwarning, by rwa [hseverity, severity.rank_of_name]⟩

end Ranked

/-- A terminal report ends with the summary of all warnings. -/
theorem terminal_summary [Library] {tree : FileTree} {cwd : Location} {root : Path} {width : Nat}
    {filesScanned : Int} {showDetails : Bool} {warnings : List Warning} {lines : List (List Char)}
    (h : terminal tree cwd root width filesScanned showDetails warnings = .ok lines) :
    summaryLines width warnings <:+ lines := by
  have hmade : ∀ shown : List (String × Warning), (do
      requireWritable (warnings.all fun warning => (shownFields showDetails).all warning.rule.writes)
      pure (headerLines width filesScanned ++
        (sections shown).flatMap (sectionLines tree cwd root width) ++ summaryLines width warnings)) =
          .ok lines → summaryLines width warnings <:+ lines := by
    intro shown h
    obtain ⟨_, -, h⟩ := bind_eq_ok.mp h
    cases h
    exact List.suffix_append _ _
  cases showDetails with
  | false => exact hmade [] h
  | true =>
      obtain ⟨shown, -, h⟩ := bind_eq_ok.mp h
      exact hmade shown h

/-- The severities of the warnings of a configured run are the three, and the counts of its summary
add up and decide its verdict. -/
theorem summary_agrees [Library] {tree : FileTree} {cwd : Location} {directory : Path}
    {config : Config}
    (hload : Config.load tree cwd directory = .ok config) {schedule : Nat → Nat} {files : FileTree}
    {current root scan : Location} {targets : List Location} {workers : Int}
    {warnings : List Warning}
    (hrun : (Lint.lintScheduled schedule files current ⟨root, scan, config⟩ targets
      workers).outcome = .ok warnings) :
    let errors := countOf .error warnings
    let others := countOf .warning warnings
    let infos := countOf .info warnings
    let severities := warnings.map fun warning => warning.rule.severity
    (∀ warning ∈ warnings, ∃ severity : Severity, warning.rule.severity = severity.name) ∧
      summary warnings = toString (errors + others + infos) ++ " problem(s): " ++ toString errors ++
        " error(s), " ++ toString others ++ " warning(s), " ++ toString infos ++ " info" ∧
      (∀ width filesScanned showDetails lines,
        terminal files current (.ofLocation root) width filesScanned showDetails warnings =
          .ok lines → summaryLines width warnings <:+ lines) ∧
      ((FailOn.from .error).fails severities = true ↔ 0 < errors) ∧
      ((FailOn.from .warning).fails severities = true ↔ 0 < errors + others) ∧
      ((FailOn.from .info).fails severities = true ↔ 0 < errors + others + infos) := by
  intro errors others infos severities
  have hranked : ∀ warning ∈ warnings, warning.rule.IsRanked :=
    Lint.forall_rule_of_warning hrun Rule.indentation_ranked fun rule hrule =>
      (Config.rules_of_load hload rule hrule).ranked
  refine ⟨hranked, ?_, fun _ _ _ _ => terminal_summary, ?_, ?_, ?_⟩
  · rw [summary, length_eq_counts hranked]
  all_goals
    rw [fails_from_iff hranked, Severity.exists_iff]
    simp only [Severity.rank]
    omega

/-- A project whose rules spell their severities in capitals, with blanks and in the short form, and
that checks indentation. -/
theorem summary_agrees_spelled :
    let rules := "[[rules]]\npattern = 'stop'\nseverity = ' Warn\t'\n[[rules]]\npattern = 'x'\n" ++
      "severity = 'INFO'\n[indentation]\ncount = 2\n"
    let tree := FileTree.directory
      [(".brslint.toml", .file (Program.asciiBytes rules.toList)),
       ("a.brs", .file (Program.asciiBytes " stop x\n".toList))]
    ∃ config warnings, Config.load tree [] (.ofString ".") = .ok config ∧
      (Lint.lintScheduled (fun _ => 0) tree [] ⟨[], [], config⟩ [["a.brs"]] 1).outcome =
        .ok warnings ∧
      summary warnings = "3 problem(s): 0 error(s), 2 warning(s), 1 info" ∧
      (∀ warning ∈ warnings, ∃ severity : Severity, warning.rule.severity = severity.name) ∧
      ((FailOn.from .error).fails (warnings.map fun warning => warning.rule.severity) = true ↔
        0 < countOf .error warnings) := by
  intro rules tree
  have hseen : ((do
      let config ← Config.load tree [] (.ofString ".")
      (Lint.lintScheduled (fun _ => 0) tree [] ⟨[], [], config⟩ [["a.brs"]] 1).outcome).map
        summary).toOption = some "3 problem(s): 0 error(s), 2 warning(s), 1 info" := by
    decide +kernel
  cases hload : Config.load tree [] (.ofString ".") with
  | error error => simp [hload, bind, Except.bind, Except.map, Except.toOption] at hseen
  | ok config =>
      rw [hload] at hseen
      cases hrun : (Lint.lintScheduled (fun _ => 0) tree [] ⟨[], [], config⟩ [["a.brs"]]
          1).outcome with
      | error error => simp [hrun, bind, Except.bind, Except.map, Except.toOption] at hseen
      | ok warnings =>
          obtain ⟨hseverities, -, -, herror, -⟩ := summary_agrees hload hrun
          refine ⟨config, warnings, rfl, hrun, ?_, hseverities, herror⟩
          simpa [hrun, bind, Except.bind, Except.map, Except.toOption] using hseen

end Report

end ChannelLint
