import ChannelLint.Proofs.Verdict

/-!
# Tables that are refused

A table that is no configuration is refused with a configuration error, and `lint` then ends with
exit code 2, unless the first rule that is refused has a pattern whose reading fails in one of four
ways that are not reported as mistakes of the configuration: a repetition count or a numeral that is
too large, two character sets that exclude each other, or parts that are nested deeper than the
library has room for. `Config.Stumbles` says when this is so. `Config.refused_table_error` says of
every library that anything but a configuration error comes out of a table in these ways only, and
what becomes of a run in either case.
-/

namespace ChannelLint

open Pattern (Regex PatternError)

/-! ## Errors of computations in steps -/

/-- A computation in two steps fails exactly if one of them does. -/
theorem bind_eq_error {ε α β : Type} {first : Except ε α} {second : α → Except ε β} {error : ε} :
    (first >>= second) = .error error ↔
      first = .error error ∨ ∃ value, first = .ok value ∧ second value = .error error := by
  cases first <;> simp [bind, Except.bind]

/-- A computation whose errors are wrapped fails with a wrapped error. -/
theorem map_error_eq_error {ε δ α : Type} {wrap : ε → δ} {result : Except ε α} {error : δ} :
    result.mapError wrap = .error error ↔ ∃ cause, result = .error cause ∧ wrap cause = error := by
  cases result <;> simp [Except.mapError]

/-- A computation whose errors are wrapped returns what it returns without. -/
theorem map_error_eq_ok {ε δ α : Type} {wrap : ε → δ} {result : Except ε α} {value : α} :
    result.mapError wrap = .ok value ↔ result = .ok value := by
  cases result <;> simp [Except.mapError]

/-- Whether a computation fails does not depend on what it would return. -/
theorem eq_error_of_map_unit {ε α : Type} {result : Except ε α} {error : ε}
    (h : result.map (fun _ => ()) = .error error) : result = .error error := by
  cases result with
  | ok value => cases h
  | error cause => rw [Except.error.inj h]

/-- The error blames the configuration. -/
def LintError.IsConfig (error : LintError) : Prop :=
  ∃ cause, error = .config cause

/-- A check of the configuration blames the configuration. -/
theorem is_config_of_check {α : Type} {check : Except ConfigError α} {error : LintError}
    (h : check.mapError .config = .error error) : error.IsConfig := by
  obtain ⟨cause, -, rfl⟩ := map_error_eq_error.mp h
  exact ⟨cause, rfl⟩

/-! ## Rules -/

/-- The failures to read a pattern that are not reported as mistakes of the configuration, with the
errors they end in. -/
inductive Escapes : PatternError → LintError → Prop
  | repetitionTooLarge : Escapes .repetitionTooLarge .repetitionTooLarge
  | numeralTooLong (digits : Nat) : Escapes (.numeralTooLong digits) (.numeralTooLong digits)
  | characterSetClash : Escapes .characterSetClash .characterSetClash
  | nestedTooDeeply : Escapes .nestedTooDeeply .nestedTooDeeply

/-- A failure to read a pattern escapes if the error that it ends in does not blame the
configuration. -/
theorem of_pattern_escapes (context : Pattern.Cause → Option Nat → ConfigError)
    {fault : PatternError} {error : LintError} :
    (LintError.ofPattern context fault = error ∧ ¬ error.IsConfig) ↔ Escapes fault error := by
  constructor
  · rintro ⟨rfl, hescapes⟩
    cases fault with
    | malformed cause position => exact absurd ⟨_, rfl⟩ hescapes
    | repetitionTooLarge => exact .repetitionTooLarge
    | numeralTooLong digits => exact .numeralTooLong digits
    | characterSetClash => exact .characterSetClash
    | nestedTooDeeply => exact .nestedTooDeeply
  · intro hescapes
    cases hescapes <;> exact ⟨rfl, nofun⟩

namespace Rule

/-- The fields of the value are those of a rule, and reading the pattern of this rule fails with an
error that does not blame the configuration. -/
def StumblesOn [Library] (field : String) (value : Value) (error : LintError) : Prop :=
  ∃ rule fault, ofFields field value = .ok rule ∧
    Regex.parse {} rule.pattern.toList = .error fault ∧ Escapes fault error

/-- Checking the pattern of a rule fails if the pattern cannot be read. -/
theorem check_pattern_eq_error [Library] {field : String} {rule : Rule} {error : LintError} :
    checkPattern field rule = .error error ↔ ∃ fault,
      Regex.parse {} rule.pattern.toList = .error fault ∧
        LintError.ofPattern (.invalidPattern field rule.pattern) fault = error := by
  unfold checkPattern
  cases Regex.parse {} rule.pattern.toList <;> simp

/-- A value that is no rule is refused with a configuration error unless its pattern stumbles. -/
theorem of_value_stumbles [Library] {field : String} {value : Value} {error : LintError} :
    (ofValue field value = .error error ∧ ¬ error.IsConfig) ↔ StumblesOn field value error := by
  constructor
  · rintro ⟨h, hescapes⟩
    rcases bind_eq_error.mp h with h | ⟨rule, hrule, h⟩
    · exact absurd (is_config_of_check h) hescapes
    rcases bind_eq_error.mp h with hcheck | ⟨_, -, h⟩
    · obtain ⟨fault, hfault, herror⟩ := check_pattern_eq_error.mp hcheck
      exact ⟨rule, fault, map_error_eq_ok.mp hrule, hfault,
        (of_pattern_escapes _).mp ⟨herror, hescapes⟩⟩
    · cases h
  · rintro ⟨rule, fault, hrule, hfault, hescapes⟩
    obtain ⟨herror, hconfig⟩ :=
      (of_pattern_escapes (.invalidPattern field rule.pattern)).mpr hescapes
    have hcheck : checkPattern field rule = .error error :=
      check_pattern_eq_error.mpr ⟨fault, hfault, herror⟩
    refine ⟨bind_eq_error.mpr (.inr ⟨rule, map_error_eq_ok.mpr hrule, ?_⟩), hconfig⟩
    exact bind_eq_error.mpr (.inl hcheck)

/-- Of values, the first one that is no rule decides. -/
theorem of_values_stumble [Library] {field : String} {first : Nat} {values : List Value}
    {error : LintError} : (ofValues field first values = .error error ∧ ¬ error.IsConfig) ↔
      ∃ before value after earlier, values = before ++ value :: after ∧
        ofValues field first before = .ok earlier ∧
        StumblesOn (itemPath field (first + before.length)) value error := by
  induction values generalizing first with
  | nil => simp [ofValues]
  | cons value values ih =>
      constructor
      · rintro ⟨h, hescapes⟩
        rcases bind_eq_error.mp h with h | ⟨rule, hrule, h⟩
        · exact ⟨[], value, values, [], rfl, rfl, of_value_stumbles.mp ⟨h, hescapes⟩⟩
        rcases bind_eq_error.mp h with h | ⟨_, -, h⟩
        · obtain ⟨before, stumbling, after, earlier, rfl, hearlier, hstumbles⟩ :=
            ih.mp ⟨h, hescapes⟩
          refine ⟨value :: before, stumbling, after, rule :: earlier, rfl, ?_, ?_⟩
          · exact bind_eq_ok.mpr ⟨rule, hrule, bind_eq_ok.mpr ⟨earlier, hearlier, rfl⟩⟩
          · rwa [List.length_cons, Nat.add_comm before.length, ← Nat.add_assoc]
        · cases h
      · rintro ⟨before, stumbling, after, earlier, heq, hearlier, hstumbles⟩
        cases before with
        | nil =>
            obtain ⟨rfl, rfl⟩ := List.cons.inj heq
            obtain ⟨herror, hescapes⟩ := of_value_stumbles.mpr hstumbles
            exact ⟨bind_eq_error.mpr (.inl herror), hescapes⟩
        | cons head before =>
            obtain ⟨rfl, rfl⟩ := List.cons.inj heq
            obtain ⟨rule, hrule, hearlier⟩ := bind_eq_ok.mp hearlier
            obtain ⟨others, hothers, -⟩ := bind_eq_ok.mp hearlier
            rw [List.length_cons, Nat.add_comm before.length, ← Nat.add_assoc] at hstumbles
            obtain ⟨herror, hescapes⟩ :=
              ih.mpr ⟨before, stumbling, after, others, rfl, hothers, hstumbles⟩
            exact ⟨bind_eq_error.mpr (.inr ⟨rule, hrule, bind_eq_error.mpr (.inl herror)⟩),
              hescapes⟩

end Rule

/-! ## Tables -/

namespace Config

/-- The rules before one of the rules of the table are accepted, and the pattern of this one fails
with an error that does not blame the configuration. -/
def Stumbles [Library] (scope : String) (entries : Table) (error : LintError) : Prop :=
  ∃ before value after earlier,
    Table.get? "rules" entries = some (.array (before ++ value :: after)) ∧
    Rule.ofValues (fieldPath scope "rules") 0 before = .ok earlier ∧
    Rule.StumblesOn (Rule.itemPath (fieldPath scope "rules") before.length) value error

/-- The rules of a table are refused with a configuration error unless a pattern stumbles. -/
theorem rules_of_stumbles [Library] {scope : String} {entries : Table} {error : LintError} :
    (rulesOf scope entries = .error error ∧ ¬ error.IsConfig) ↔ Stumbles scope entries error := by
  constructor
  · rintro ⟨h, hescapes⟩
    unfold rulesOf at h
    split at h
    case h_2 => cases h
    case h_1 value hvalue =>
        unfold Rule.ofArray at h
        split at h
        case h_2 => exact absurd ⟨_, (Except.error.inj h).symm⟩ hescapes
        case h_1 items =>
            obtain ⟨before, value, after, earlier, rfl, hearlier, hstumbles⟩ :=
              Rule.of_values_stumble.mp ⟨h, hescapes⟩
            rw [Nat.zero_add] at hstumbles
            exact ⟨before, value, after, earlier, hvalue, hearlier, hstumbles⟩
  · rintro ⟨before, value, after, earlier, hvalue, hearlier, hstumbles⟩
    rw [← Nat.zero_add before.length] at hstumbles
    obtain ⟨herror, hescapes⟩ :=
      Rule.of_values_stumble.mpr ⟨before, value, after, earlier, rfl, hearlier, hstumbles⟩
    refine ⟨?_, hescapes⟩
    rw [rulesOf, hvalue]
    exact herror

/-- A table is refused with a configuration error unless a pattern stumbles: the fields that are no
rules are only checked. -/
theorem of_table_stumbles [Library] {scope : String} {entries : Table} {error : LintError} :
    (ofTable scope entries = .error error ∧ ¬ error.IsConfig) ↔ Stumbles scope entries error := by
  rw [← rules_of_stumbles]
  constructor
  · rintro ⟨h, hescapes⟩
    rcases bind_eq_error.mp h with h | ⟨rules, -, h⟩
    · exact ⟨h, hescapes⟩
    rcases bind_eq_error.mp h with h | ⟨extensions, -, h⟩
    · exact absurd (is_config_of_check h) hescapes
    rcases bind_eq_error.mp h with h | ⟨indentation, -, h⟩
    · exact absurd (is_config_of_check h) hescapes
    rcases bind_eq_error.mp h with h | ⟨ignored, -, h⟩
    · exact absurd (is_config_of_check h) hescapes
    · cases h
  · rintro ⟨h, hescapes⟩
    exact ⟨bind_eq_error.mpr (.inl h), hescapes⟩

end Config

/-! ## Runs -/

namespace Program

/-- A run whose configuration cannot be loaded ends with the exit code of the error, or with the
error itself. -/
theorem lint_load_error [Library] (showing : Showing) {tree : FileTree} {cwd : Location}
    {path : Path} {failOn : String} {choice : FailOn} {error : LintError}
    (hchoice : FailOn.ofName? (normalChoice failOn) = some choice) (hnull : path.hasNull = false)
    (hload : Config.load tree cwd (.ofLocation (Lint.projectRoot tree (path.resolveFrom cwd))) =
      .error error) :
    (showing.lint tree cwd path failOn).map Outcome.exitCode =
      (codeOf choice (.error error)).mapError .run := by
  have hwarnings : warningsOf tree cwd (path.resolveFrom cwd) = .error error := by
    simp only [warningsOf, inventory, Lint.prepare, hload]
    rfl
  have hwritable : ∀ warnings, warningsOf tree cwd (path.resolveFrom cwd) = .ok warnings →
      ∀ warning ∈ warnings, warning.isWritable = true := by
    intro warnings hok
    cases hwarnings.symm.trans hok
  have hverdict : verdict tree cwd path choice = codeOf choice (.error error) := by
    simp only [verdict, hnull, hwarnings]
    rfl
  rw [lint_exit_code showing hchoice hwritable, hverdict]

/-- Listing the rules of a configuration that cannot be loaded ends so, too. -/
theorem rules_load_error [Library] (surroundings : Surroundings) {directory : Location}
    (format : String) {error : LintError} (choice : FailOn)
    (hload : Config.load surroundings.tree surroundings.cwd
      (.ofLocation (Lint.projectRoot surroundings.tree directory)) = .error error) :
    (rules surroundings directory format).map Outcome.exitCode =
      (codeOf choice (.error error)).mapError .run := by
  have hprepare : Lint.prepare surroundings.tree surroundings.cwd directory none =
      .error error := by
    simp only [Lint.prepare, hload]
    rfl
  simp only [rules, hprepare]
  exact outcome_of_error_code choice "" error

end Program

open Program (Surroundings Showing Failure Outcome normalChoice)

namespace Config

/-- How a run ends whose configuration is a table that is refused: with exit code 2, or without an
exit code if a pattern stumbles. -/
def RefusalEnds [Library] (scope : String) (entries : Table) (error : LintError)
    (ending : Except Failure Nat) : Prop :=
  (¬ Stumbles scope entries error → ending = .ok 2) ∧
    (Stumbles scope entries error → ending = .error (.run error))

/-- The exit code of the error of a table that is refused. -/
theorem refusal_ends [Library] {scope : String} {entries : Table} {error : LintError}
    (h : ofTable scope entries = .error error) (choice : FailOn) :
    RefusalEnds scope entries error ((Program.codeOf choice (.error error)).mapError .run) := by
  constructor
  · intro hstumbles
    have hconfig : error.IsConfig := by
      by_contra hescapes
      exact hstumbles (of_table_stumbles.mp ⟨h, hescapes⟩)
    obtain ⟨cause, rfl⟩ := hconfig
    rfl
  · intro hstumbles
    have hescapes : ¬ error.IsConfig := (of_table_stumbles.mpr hstumbles).2
    cases error with
    | config cause => exact absurd ⟨cause, rfl⟩ hescapes
    | _ => rfl

/-- A table is refused with something else than a configuration error exactly if a pattern stumbles.
When a command takes its configuration from a table that is refused, it ends with exit code 2,
except for such patterns, which leave it without an exit code. -/
theorem refused_table_error [Library] (scope : String) (entries : Table) :
    (∀ error, (ofTable scope entries = .error error ∧ ¬ error.IsConfig) ↔
      Stumbles scope entries error) ∧
    ∀ error, ofTable scope entries = .error error →
      (∀ (showing : Showing) (tree : FileTree) (cwd : Location) (path : Path) (failOn : String)
        (choice : FailOn), FailOn.ofName? (normalChoice failOn) = some choice →
        path.hasNull = false →
        load tree cwd (.ofLocation (Lint.projectRoot tree (path.resolveFrom cwd))) =
          ofTable scope entries →
        RefusalEnds scope entries error
          ((showing.lint tree cwd path failOn).map Outcome.exitCode)) ∧
      ∀ (surroundings : Surroundings) (directory : Location) (format : String),
        load surroundings.tree surroundings.cwd
            (.ofLocation (Lint.projectRoot surroundings.tree directory)) =
          ofTable scope entries →
        RefusalEnds scope entries error
          ((Program.rules surroundings directory format).map Outcome.exitCode) := by
  refine ⟨fun error => of_table_stumbles, fun error herror => ⟨?_, ?_⟩⟩
  · intro showing tree cwd path failOn choice hchoice hnull hload
    rw [Program.lint_load_error showing hchoice hnull (hload.trans herror)]
    exact refusal_ends herror choice
  · intro surroundings directory format hload
    rw [Program.rules_load_error surroundings format .never (hload.trans herror)]
    exact refusal_ends herror .never

/-- A project whose configuration names a severity that does not exist. -/
theorem refused_table_error_severity :
    let entries : Table := [("rules", .array
      [.table [("pattern", .string "stop"), ("severity", .string "fatal")]])]
    let document := "[[rules]]\npattern = \"stop\"\nseverity = \"fatal\"\n"
    let tree := FileTree.directory
      [(Config.fileName, .file (Program.asciiBytes document.toList))]
    let path := Path.ofString "."
    let json : Showing := ⟨100, none, none, fun _ => 0, {}, {}, "json", rfl⟩
    let error := ConfigError.unknownSeverity "rules[0].severity"
    FailOn.ofName? (normalChoice "info") = some (.from .info) ∧ path.hasNull = false ∧
      load tree [] (.ofLocation (Lint.projectRoot tree (path.resolveFrom []))) =
        ofTable "" entries ∧
      ofTable "" entries = .error (.config error) ∧ ¬ Stumbles "" entries (.config error) ∧
      (json.lint tree [] path "info").map Outcome.exitCode = .ok 2 := by
  intro entries document tree path json error
  have hchoice : FailOn.ofName? (normalChoice "info") = some (.from .info) := by decide +kernel
  have hnull : path.hasNull = false := by decide +kernel
  have hload : load tree [] (.ofLocation (Lint.projectRoot tree (path.resolveFrom []))) =
      .error (.config error) := eq_error_of_map_unit (by decide +kernel)
  have herror : ofTable "" entries = .error (.config error) :=
    eq_error_of_map_unit (by decide +kernel)
  obtain ⟨hstumbles, hcode⟩ := refused_table_error "" entries
  have hno : ¬ Stumbles "" entries (.config error) :=
    fun h => ((hstumbles _).mpr h).2 ⟨error, rfl⟩
  have hsame := hload.trans herror.symm
  exact ⟨hchoice, hnull, hsame, herror, hno,
    ((hcode _ herror).1 json tree [] path "info" _ hchoice hnull hsame).1 hno⟩

/-- A repetition count that is too large is no configuration error, and the run has no exit code. -/
theorem refused_repetition_count :
    let entries : Table := [("rules", .array
      [.table [("pattern", .string "a\x7b4294967295\x7d")]])]
    let document := "[[rules]]\npattern = \"a\x7b4294967295\x7d\"\n"
    let tree := FileTree.directory
      [(Config.fileName, .file (Program.asciiBytes document.toList))]
    let json : Showing := ⟨100, none, none, fun _ => 0, {}, {}, "json", rfl⟩
    ofTable "tool.brslint" entries = .error .repetitionTooLarge ∧
      ¬ LintError.IsConfig .repetitionTooLarge ∧
      (json.lint tree [] (.ofString ".") "info").map Outcome.exitCode =
        .error (.run .repetitionTooLarge) := by
  intro entries document tree json
  exact ⟨eq_error_of_map_unit (by decide +kernel), nofun, by decide +kernel⟩

end Config

end ChannelLint
