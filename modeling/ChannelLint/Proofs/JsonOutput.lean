import ChannelLint.Proofs.ConfiguredRules
import ChannelLint.Proofs.JsonWriting

/-!
# Output that is JSON

`lint` and `rules` write JSON when they are asked to. What they write is a JSON document exactly if all
floating-point numbers in the further fields that are shown are finite: `Program.json_output_iff_finite`.
A configuration may hold others, and `Program.not_a_number_is_written` is such a project.
-/

namespace ChannelLint

/-! ## Tables -/

namespace Table

/-- What is put into a table has a property that the new values have exactly if the old values have it,
apart from those that are replaced. -/
theorem forall_put_all_iff {P : Value → Prop} {entries new : Table}
    (hentries : (entries.map Prod.fst).Nodup) (hnew : (new.map Prod.fst).Nodup)
    (h : ∀ entry ∈ new, P entry.2) :
    (∀ entry ∈ putAll entries new, P entry.2) ↔
      ∀ entry ∈ entries, entry.1 ∉ new.map Prod.fst → P entry.2 := by
  constructor
  · intro hall entry hentry hkey
    have hget : get? entry.1 (putAll entries new) = some entry.2 := by
      rw [get?_put_all_of_not_mem hkey, get?_of_mem hentries hentry]
    exact hall _ (mem_of_get? hget)
  · intro hold entry hentry
    have hget := get?_of_mem (nodup_put_all hentries new) hentry
    rw [get?_put_all hnew] at hget
    cases hnewer : get? entry.1 new with
    | some value =>
        rw [hnewer, Option.some_or] at hget
        cases hget
        exact h _ (mem_of_get? hnewer)
    | none =>
        rw [hnewer, Option.none_or] at hget
        refine hold entry (mem_of_get? hget) fun hkey => ?_
        obtain ⟨other, hother, heq⟩ := List.mem_map.mp hkey
        rw [← heq, get?_of_mem hnew hother] at hnewer
        cases hnewer

end Table

/-! ## Warnings and rules -/

/-- All further fields of the rule are finite. -/
def Rule.IsFinite (rule : Rule) : Prop :=
  ∀ field ∈ rule.extra, field.2.isFinite = true

/-- All further fields of its rule that the warning shows are finite. -/
def Warning.IsFinite (warning : Warning) : Prop :=
  ∀ field ∈ warning.rule.extra, field.1 ∉ ownKeys → field.2.isFinite = true

instance (rule : Rule) : Decidable rule.IsFinite :=
  inferInstanceAs (Decidable (∀ field ∈ rule.extra, field.2.isFinite = true))

instance (warning : Warning) : Decidable warning.IsFinite :=
  inferInstanceAs (Decidable (∀ field ∈ warning.rule.extra,
    field.1 ∉ Warning.ownKeys → field.2.isFinite = true))

/-- The own fields of a warning are finite. -/
theorem Warning.own_fields_finite (warning : Warning) (path : String) :
    ∀ field ∈ warning.ownFields path, field.2.isFinite = true := by
  have hgroup : ∀ group : Option String, (group.elim Value.null Value.string).isFinite = true := by
    intro group
    cases group <;> rfl
  cases hfound : warning.found with
  | none => simp [ownFields, hfound, Value.isFinite]
  | some found =>
      simp [ownFields, hfound, MatchedText.fields, Value.isFinite, entriesAreFinite,
        items_are_finite_iff, hgroup]

/-- What a warning shows is finite exactly if the further fields in it are. -/
theorem Warning.finite_to_table_iff {warning : Warning} (h : warning.rule.IsTidy) (path : String) :
    (Value.table (warning.toTable path)).isFinite = true ↔ warning.IsFinite := by
  rw [Value.isFinite, entries_are_finite_iff, to_table_eq]
  exact @Table.forall_put_all_iff (fun value => value.isFinite = true) _ _ h.distinct
    (own_fields_native warning path).entries.1 (warning.own_fields_finite path)

/-- What a rule shows is finite exactly if its further fields are: none of them is replaced. -/
theorem Rule.finite_to_table_iff {rule : Rule} (h : rule.IsTidy) :
    (Value.table rule.toTable).isFinite = true ↔ rule.IsFinite := by
  have hkeys : ∀ key ∈ ["pattern", "case_sensitive", "include_comments", "disabled"],
      key ∈ ownSpellings := by decide
  rw [Value.isFinite, entries_are_finite_iff, toTable]
  refine (@Table.forall_put_all_iff (fun value => value.isFinite = true) _ _ h.distinct (by simp)
    (by simp [Value.isFinite])).trans ⟨fun hall field hfield => ?_, fun hall field hfield _ => ?_⟩
  · exact hall field hfield fun hkey => h.apart field hfield (hkeys field.1 hkey)
  · exact hall field hfield

/-! ## Documents -/

namespace Json

/-- Sorting keys sorts them in each item. -/
theorem sort_keys_items_eq (items : List Value) : sortKeysItems items = items.map sortKeys := by
  induction items with
  | nil => rfl
  | cons item rest ih => rw [sortKeysItems, ih, List.map_cons]

/-- Sorting keys sorts them in the value of each entry. -/
theorem sort_keys_entries_eq (entries : Table) :
    sortKeysEntries entries = entries.map fun entry => (entry.1, sortKeys entry.2) := by
  induction entries with
  | nil => rfl
  | cons entry rest ih => rw [sortKeysEntries, ih, List.map_cons]

/-- A value with sorted keys is finite exactly if the value is. -/
theorem finite_sort_keys_iff (value : Value) :
    (sortKeys value).isFinite = true ↔ value.isFinite = true := by
  induction value using Value.nested with
  | array items ih =>
      rw [sortKeys, sort_keys_items_eq, Value.isFinite, Value.isFinite, items_are_finite_iff,
        items_are_finite_iff, List.forall_mem_map]
      exact forall₂_congr ih
  | table entries ih =>
      rw [sortKeys, sort_keys_entries_eq, Value.isFinite, Value.isFinite, entries_are_finite_iff,
        entries_are_finite_iff]
      simp only [List.mem_mergeSort, List.forall_mem_map]
      exact forall₂_congr ih
  | _ => rfl

/-- The text of a value on lines of its own is a JSON document exactly if the value is finite. -/
theorem document_line_iff (value : Value) :
    IsDocument (pretty value ++ "\n").toList ↔ value.isFinite = true := by
  have hgap : ∀ c ∈ "\n".toList, c ∈ blanks := by simp [blanks]
  rw [String.toList_append]
  exact document_pretty_iff value hgap

end Json

/-- A report on tidy warnings is finite exactly if all of them are. -/
theorem Report.finite_document_iff (filesScanned : Int) {shown : List (String × Warning)}
    (h : ∀ entry ∈ shown, entry.2.rule.IsTidy) :
    (document filesScanned shown).isFinite = true ↔ ∀ entry ∈ shown, entry.2.IsFinite := by
  simp only [document, Value.isFinite, entriesAreFinite, items_are_finite_iff, Bool.true_and,
    Bool.and_true, List.forall_mem_map]
  exact forall₂_congr fun entry hentry => Warning.finite_to_table_iff (h entry hentry) entry.1

/-- A list of tidy rules is finite exactly if all of them are. -/
theorem Report.finite_rules_iff {rules : List Rule} (h : ∀ rule ∈ rules, rule.IsTidy) :
    (Value.array (rules.map fun rule => .table rule.toTable)).isFinite = true ↔
      ∀ rule ∈ rules, rule.IsFinite := by
  rw [Value.isFinite, items_are_finite_iff, List.forall_mem_map]
  exact forall₂_congr fun rule hrule => Rule.finite_to_table_iff (h rule hrule)

/-! ## Commands -/

namespace Program

/-- What is printed is a JSON document exactly if its numbers are finite, and nothing is printed if it
holds an integer that is too long to be written. -/
structure PrintsJson (printed : Except Failure String) (writable finite : Prop) : Prop where
  written : writable → ∃ text, printed = .ok text ∧ (Json.IsDocument text.toList ↔ finite)
  unwritten : ¬ writable → printed = .error (.run .integerTooLong)

/-- A value that is printed on lines of its own. -/
theorem prints_json {printed : Except Failure String} {writable finite : Prop} {value : Value}
    (hwritten : writable → printed = .ok (Json.pretty value ++ "\n"))
    (hunwritten : ¬ writable → printed = .error (.run .integerTooLong))
    (hfinite : value.isFinite = true ↔ finite) : PrintsJson printed writable finite where
  written h := ⟨_, hwritten h, (Json.document_line_iff value).trans hfinite⟩
  unwritten := hunwritten

variable {tree : FileTree} {cwd : Location}

/-- A run with a JSON report prints the report on the warnings of the project, on lines of its own. -/
theorem lint_as_json [Library] (showing : Showing) {scan : Location} {found : Inventory}
    {warnings : List Warning} (failOn : FailOn) (h : inventory tree cwd scan = .ok found)
    (houtcome : found.outcome = .ok warnings) :
    (lintAs (showing.surroundings tree cwd) showing.settings showing.log scan .json failOn).map
        Outcome.output =
      ((Report.json cwd (.ofLocation found.target.root) found.files.length warnings).map
        (· ++ "\n")).mapError .run := by
  have hinventory : _ = inventory tree cwd scan :=
    findings_inventory showing showing.settings .json scan
  rw [h] at hinventory
  cases hfindings : findings (showing.surroundings tree cwd) showing.settings .json scan with
  | error error =>
      rw [hfindings] at hinventory
      cases hinventory
  | ok findings =>
      rw [hfindings] at hinventory
      cases hinventory
      have hreport : reportText (showing.surroundings tree cwd) showing.settings .json findings
          warnings = (Report.json cwd (.ofLocation findings.target.root) findings.files.length
            warnings).map (· ++ "\n") := rfl
      have hprogress : findings.progress.outcome = .ok warnings := houtcome
      simp only [lintAs, hfindings, hprogress, hreport, Findings.inventory]
      cases Report.json cwd (.ofLocation findings.target.root) findings.files.length warnings <;> rfl

/-- The rules of a project are tidy. -/
theorem tidy_of_prepare [Library] {scan : Location} {target : Target}
    (h : Lint.prepare tree cwd scan none = .ok target) :
    ∀ rule ∈ target.config.rules, rule.IsTidy := by
  obtain ⟨config, hload, heq⟩ := bind_eq_ok.mp h
  obtain rfl := Except.ok.inj heq
  exact fun rule hrule => (Config.rules_of_load hload rule hrule).tidy

/-- The rules of all warnings of a project are tidy. -/
theorem tidy_of_warnings [Library] {scan : Location} {warnings : List Warning}
    (h : warningsOf tree cwd scan = .ok warnings) :
    ∀ warning ∈ warnings, warning.rule.IsTidy := by
  obtain ⟨found, hfound, houtcome⟩ := bind_eq_ok.mp h
  obtain ⟨target, htarget, heq⟩ := bind_eq_ok.mp hfound
  obtain rfl := Except.ok.inj heq
  rw [← Lint.lint_scheduled_outcome (fun _ => 0) _ _ _ _ 1] at houtcome
  exact Lint.forall_rule_of_warning houtcome Rule.indentation_tidy (tidy_of_prepare htarget)

/-- What a run of `lint` prints about its warnings as JSON. -/
theorem lint_prints_json [Library] (showing : Showing)
    (hjson : Format.ofText? showing.format = some .json)
    {path : Path} (hpath : path.hasNull = false) {failOn : String} {choice : FailOn}
    (hchoice : FailOn.ofName? (normalChoice failOn) = some choice) {warnings : List Warning}
    (hwarnings : warningsOf tree cwd (path.resolveFrom cwd) = .ok warnings) :
    PrintsJson ((showing.lint tree cwd path failOn).map Outcome.output)
      (∀ warning ∈ warnings, warning.isWritable = true) (∀ warning ∈ warnings, warning.IsFinite) := by
  obtain ⟨found, hfound, houtcome⟩ := bind_eq_ok.mp hwarnings
  have hnull : ∀ warning ∈ warnings, warning.path.hasNull = false ∧
      (Path.ofLocation found.target.root).hasNull = false :=
    fun warning hwarning => null_of_inventory hfound houtcome hwarning
  have hchoices : readChoices showing.format failOn = .ok (.json, choice) := by
    simp only [readChoices, hjson, hchoice]
  have hlint : (showing.lint tree cwd path failOn).map Outcome.output =
      ((Report.json cwd (.ofLocation found.target.root) found.files.length warnings).map
        (· ++ "\n")).mapError .run := by
    rw [← lint_as_json showing choice hfound houtcome]
    simp only [Showing.lint, lint, hchoices, hpath]
    rfl
  have hfinite : ∀ filesScanned, (Report.document filesScanned (warnings.map fun warning =>
      (reportPath cwd warning.path (.ofLocation found.target.root), warning))).isFinite = true ↔
        ∀ warning ∈ warnings, warning.IsFinite := by
    intro filesScanned
    rw [Report.finite_document_iff filesScanned
      (List.forall_mem_map.mpr (tidy_of_warnings hwarnings)), List.forall_mem_map]
  rw [hlint]
  refine prints_json (fun hwritable => ?_) (fun hunwritable => ?_) (hfinite found.files.length)
  · rw [Report.json_eq hnull hwritable]
    rfl
  · rw [Report.json_unwritable hnull hunwritable]
    rfl

/-- What `rules` prints about the rules of a project as JSON. -/
theorem rules_prints_json [Library] (showing : Showing)
    (hjson : Format.ofText? showing.format = some .json)
    {scan : Location} {target : Target} (htarget : Lint.prepare tree cwd scan none = .ok target) :
    PrintsJson
      ((rules (showing.surroundings tree cwd) scan showing.format).map Outcome.output)
      (∀ rule ∈ target.config.rules, rule.isWritable = true)
      (∀ rule ∈ target.config.rules, rule.IsFinite) := by
  have hlisted : (rules (showing.surroundings tree cwd) scan showing.format).map Outcome.output =
      ((Report.rulesJson target.config.rules).map (· ++ "\n")).mapError .run := by
    simp only [rules, Showing.surroundings, htarget, hjson]
    cases Report.rulesJson target.config.rules <;> rfl
  rw [hlisted]
  refine prints_json (fun hwritable => ?_) (fun hunwritable => ?_)
    ((Json.finite_sort_keys_iff _).trans (Report.finite_rules_iff (tidy_of_prepare htarget)))
  · have hall : target.config.rules.all Rule.isWritable = true := List.all_eq_true.mpr hwritable
    rw [Report.rulesJson, hall]
    rfl
  · have hall : target.config.rules.all Rule.isWritable = false := by
      rw [Bool.eq_false_iff, ne_eq, List.all_eq_true]
      exact hunwritable
    rw [Report.rulesJson, hall]
    rfl

/-- With every configuration that is accepted, what `lint` prints as JSON about the warnings of a
project is a JSON document exactly if all floating-point numbers in the further fields that they show
are finite, and what `rules` prints is one exactly if all those in the further fields of the rules are.
Nothing is printed exactly if an integer is too long to be written. -/
theorem json_output_iff_finite [Library] {config : Config} {path : Path} {failOn : String}
    {choice : FailOn} (showing : Showing) (hjson : Format.ofText? showing.format = some .json)
    (hchoice : FailOn.ofName? (normalChoice failOn) = some choice) (hpath : path.hasNull = false)
    (hload : Config.load tree cwd (.ofLocation (Lint.projectRoot tree (path.resolveFrom cwd))) =
      .ok config) :
    (∀ warnings, warningsOf tree cwd (path.resolveFrom cwd) = .ok warnings →
      PrintsJson ((showing.lint tree cwd path failOn).map Outcome.output)
        (∀ warning ∈ warnings, warning.isWritable = true)
        (∀ warning ∈ warnings, warning.IsFinite)) ∧
      PrintsJson
        ((rules (showing.surroundings tree cwd) (path.resolveFrom cwd) showing.format).map
          Outcome.output)
        (∀ rule ∈ config.rules, rule.isWritable = true) (∀ rule ∈ config.rules, rule.IsFinite) := by
  have htarget : Lint.prepare tree cwd (path.resolveFrom cwd) none =
      .ok ⟨Lint.projectRoot tree (path.resolveFrom cwd), path.resolveFrom cwd, config⟩ := by
    simp only [Lint.prepare, hload]
    rfl
  exact ⟨fun _ hwarnings => lint_prints_json showing hjson hpath hchoice hwarnings,
    rules_prints_json showing hjson htarget⟩

/-- A rule with a further field that is not a number under the name of a field that warnings have
themselves, and with finite numbers in an array and in a table: the report is a JSON document, and the
list of rules is none. -/
theorem json_output_iff_finite_replaced :
    let config := "[[rules]]\npattern = 'stop'\nline = nan\nsince = 1979-05-27\n" ++
      "weights = [1.5, -1e22]\n[rules.more]\nhalf = 0.5\n"
    let tree := FileTree.directory
      [(".brslint.toml", .file (asciiBytes config.toList)),
       ("a.brs", .file (asciiBytes "stop\n".toList))]
    let path := Path.ofString "."
    let json : Showing := ⟨100, none, none, fun _ => 0, {}, {}, "JSON", rfl⟩
    ∃ report list, (json.lint tree [] path "error").map Outcome.output = .ok report ∧
      Json.IsDocument report.toList ∧
      (rules (json.surroundings tree []) (path.resolveFrom []) json.format).map Outcome.output =
        .ok list ∧
      ¬ Json.IsDocument list.toList := by
  intro config tree path json
  have hloaded : (Config.load tree []
      (.ofLocation (Lint.projectRoot tree (path.resolveFrom [])))).toOption.any (fun loaded =>
        decide ((∀ rule ∈ loaded.rules, rule.isWritable = true) ∧
          ¬ ∀ rule ∈ loaded.rules, rule.IsFinite)) = true := by
    decide +kernel
  have hfound : (warningsOf tree [] (path.resolveFrom [])).toOption.any (fun warnings =>
      decide (∀ warning ∈ warnings, warning.isWritable = true ∧ warning.IsFinite)) = true := by
    decide +kernel
  cases hload : Config.load tree [] (.ofLocation (Lint.projectRoot tree (path.resolveFrom []))) with
  | error error => simp [hload, Except.toOption] at hloaded
  | ok loaded =>
      cases hwarnings : warningsOf tree [] (path.resolveFrom []) with
      | error error => simp [hwarnings, Except.toOption] at hfound
      | ok warnings =>
          simp only [hload, Except.toOption, Option.any_some, decide_eq_true_eq] at hloaded
          simp only [hwarnings, Except.toOption, Option.any_some, decide_eq_true_eq] at hfound
          obtain ⟨hreport, hlist⟩ := json_output_iff_finite json (by decide +kernel)
            (show FailOn.ofName? (normalChoice "error") = some (.from .error) by decide +kernel)
            (show path.hasNull = false by decide +kernel) hload
          obtain ⟨report, hprinted, hdocument⟩ :=
            (hreport warnings hwarnings).written fun warning hwarning => (hfound warning hwarning).1
          obtain ⟨list, hlisted, hnone⟩ := hlist.written hloaded.1
          exact ⟨report, list, hprinted,
            hdocument.mpr fun warning hwarning => (hfound warning hwarning).2, hlisted,
            fun h => hloaded.2 (hnone.mp h)⟩

/-- A rule with a further field that is not a number: the report on its warning is no JSON document. -/
theorem not_a_number_is_written :
    let config := "[[rules]]\npattern = \"stop\"\nweight = nan\n"
    let tree := FileTree.directory
      [(".brslint.toml", .file (asciiBytes config.toList)),
       ("a.brs", .file (asciiBytes "stop\n".toList))]
    let path := Path.ofString "."
    let json : Showing := ⟨100, none, none, fun _ => 0, {}, {}, "json", rfl⟩
    ∃ report, (json.lint tree [] path "error").map Outcome.output = .ok report ∧
      ¬ Json.IsDocument report.toList := by
  intro config tree path json
  have hfound : (warningsOf tree [] (path.resolveFrom [])).toOption.any (fun warnings =>
      decide ((∀ warning ∈ warnings, warning.isWritable = true) ∧
        ¬ ∀ warning ∈ warnings, warning.IsFinite)) = true := by
    decide +kernel
  cases hwarnings : warningsOf tree [] (path.resolveFrom []) with
  | error error => simp [hwarnings, Except.toOption] at hfound
  | ok warnings =>
      simp only [hwarnings, Except.toOption, Option.any_some, decide_eq_true_eq] at hfound
      obtain ⟨report, hprinted, hdocument⟩ := (lint_prints_json json (by decide +kernel)
        (show path.hasNull = false by decide +kernel)
        (show FailOn.ofName? (normalChoice "error") = some (.from .error) by decide +kernel)
        hwarnings).written hfound.1
      exact ⟨report, hprinted, fun h => hfound.2 (hdocument.mp h)⟩

end Program

end ChannelLint
