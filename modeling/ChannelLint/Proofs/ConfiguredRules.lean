import ChannelLint.Proofs.NullFreeDocuments
import ChannelLint.Proofs.RefusedTables

/-!
# Rules of configurations

What a configuration makes of the tables of its rules. The further fields of a rule are the entries of
its table that name no field of the rule itself, with the severity under its normal name. So no two of
them have the same key (`Rule.IsTidy`), and the severity of the rule is one of the three
(`Rule.IsRanked`): a document has no way to write null, which would pass the check as an absent
severity. `Config.rules_of_load` is where the rules of a project come from, and `Lint.rule_of_warning`
where the rules of warnings come from.
-/

namespace ChannelLint

namespace Rule

/-! ## Fields -/

/-- The keys of the fields that a rule has itself, in all spellings. -/
def ownSpellings : List String :=
  ["pattern", "regex", "case_sensitive", "case-sensitive", "include_comments", "include-comments",
    "disabled"]

/-- The entries of a table that are further fields of the rule. -/
def furtherFields (entries : Table) : Table :=
  entries.filter fun entry => entry.1 ∉ ownSpellings

/-- An own key names the pattern or a switch. -/
theorem mem_own_spellings_iff (rule : Rule) (key : String) :
    key ∈ ownSpellings ↔
      isPatternKey key = true ∨ (rule.setSwitch? key true).isSome = true := by
  simp only [setSwitch?, ownSpellings, isPatternKey]
  grind

/-- Setting a switch leaves the further fields as they are. -/
theorem set_switch_extra (rule : Rule) (key : String) (b : Bool) :
    ((rule.setSwitch? key b).getD rule).extra = rule.extra := by
  unfold setSwitch?
  split_ifs <;> rfl

/-- The further fields of a table are put in one after the other. -/
theorem take_fields_extra {field : String} {seen after : Bool} {rule next : Rule} {entries : Table}
    (h : takeFields field seen rule entries = .ok (after, next)) :
    next.extra = Table.putAll rule.extra (furtherFields entries) := by
  have hown : ∀ {key value} {rest : Table}, key ∈ ownSpellings →
      furtherFields ((key, value) :: rest) = furtherFields rest := fun hkey =>
    List.filter_cons_of_neg (by simpa using hkey)
  fun_induction takeFields field seen rule entries with
  | case1 seen rule =>
      cases h
      rfl
  | case2 => cases h
  | case3 seen rule key rest hkey pattern hpattern ih =>
      rw [ih h, hown ((mem_own_spellings_iff rule key).mpr (.inl hkey))]
  | case4 => cases h
  | case5 seen rule key rest hkey switched hswitch b ih =>
      rw [ih h, set_switch_extra,
        hown ((mem_own_spellings_iff rule key).mpr (.inr (by rw [hswitch]; rfl)))]
  | case6 => cases h
  | case7 seen rule key value rest hkey hswitch ih =>
      have hnew : key ∉ ownSpellings := by
        rw [mem_own_spellings_iff rule, hswitch]
        simpa using hkey
      have hfields : furtherFields ((key, value) :: rest) = (key, value) :: furtherFields rest :=
        List.filter_cons_of_pos (by simpa using hnew)
      rw [ih h, hfields]
      rfl

/-- The severity of an accepted rule is put under its normal name; without one nothing changes. -/
theorem normalize_severity_cases {field : String} {rule next : Rule}
    (h : normalizeSeverity field rule = .ok next) :
    next = rule ∧ Table.get? "severity" rule.extra ∈ [none, some .null] ∨
      ∃ severity : Severity,
        next = { rule with extra := Table.put "severity" (.string severity.name) rule.extra } := by
  unfold normalizeSeverity at h
  split at h
  case h_1 hnone =>
      cases h
      exact .inl ⟨rfl, by simp [hnone]⟩
  case h_2 hnull =>
      cases h
      exact .inl ⟨rfl, by simp [hnull]⟩
  case h_3 text htext =>
      split at h
      · cases h
        exact .inr ⟨_, rfl⟩
      · cases h
  case h_4 => cases h

/-- The further fields of an accepted rule are those of its table, with the severity under its normal
name. -/
theorem extra_of_value [Library] {field : String} {value : Value} {rule : Rule}
    (h : ofValue field value = .ok rule) :
    ∃ entries, value = .table entries ∧
      (rule.extra = Table.putAll [] (furtherFields entries) ∧
          Table.get? "severity" rule.extra ∈ [none, some .null] ∨
        ∃ severity : Severity, rule.extra = Table.put "severity" (.string severity.name)
          (Table.putAll [] (furtherFields entries))) := by
  obtain ⟨described, hfields, h⟩ := bind_eq_ok.mp h
  obtain ⟨_, -, h⟩ := bind_eq_ok.mp h
  cases h
  rw [map_error_eq_ok] at hfields
  unfold ofFields at hfields
  split at hfields
  case h_2 => cases hfields
  case h_1 entries =>
      obtain ⟨⟨seen, taken⟩, htaken, hfields⟩ := bind_eq_ok.mp hfields
      refine ⟨entries, rfl, ?_⟩
      dsimp only at hfields
      split at hfields
      · have hextra : taken.extra = Table.putAll [] (furtherFields entries) :=
          take_fields_extra htaken
        rcases normalize_severity_cases hfields with ⟨rfl, hget⟩ | ⟨severity, rfl⟩
        · exact .inl ⟨hextra, hget⟩
        · exact .inr ⟨severity, by rw [hextra]⟩
      · cases hfields

/-! ## Accepted rules -/

/-- The further fields of the rule have distinct keys, none of which names a field of its own. -/
structure IsTidy (rule : Rule) : Prop where
  distinct : (rule.extra.map Prod.fst).Nodup
  apart : ∀ field ∈ rule.extra, field.1 ∉ ownSpellings

/-- The severity of the rule is one of the three. -/
def IsRanked (rule : Rule) : Prop :=
  ∃ severity : Severity, rule.severity = severity.name

/-- The further fields of a table are tidy. -/
theorem further_fields_tidy (entries : Table) :
    let extra := Table.putAll [] (furtherFields entries)
    (extra.map Prod.fst).Nodup ∧ ∀ field ∈ extra, field.1 ∉ ownSpellings := by
  refine ⟨@Table.nodup_put_all [] List.nodup_nil _, Table.forall_mem_put_all nofun ?_⟩
  intro field hfield
  simpa using (List.mem_filter.mp hfield).2

/-- The further fields of an accepted rule are tidy. -/
theorem tidy_of_value [Library] {field : String} {value : Value} {rule : Rule}
    (h : ofValue field value = .ok rule) : rule.IsTidy := by
  obtain ⟨entries, -, ⟨hextra, -⟩ | ⟨severity, hextra⟩⟩ := extra_of_value h
  · obtain ⟨hdistinct, hapart⟩ := further_fields_tidy entries
    exact ⟨hextra ▸ hdistinct, hextra ▸ hapart⟩
  · obtain ⟨hdistinct, hapart⟩ := further_fields_tidy entries
    refine ⟨hextra ▸ Table.nodup_put hdistinct _ _, ?_⟩
    rw [hextra]
    intro entry hentry
    rcases Table.mem_put hentry with rfl | hentry
    · exact (by decide : "severity" ∉ ownSpellings)
    · exact hapart entry hentry

/-- A rule whose table has no null in it has one of the three severities. -/
theorem ranked_of_value [Library] {field : String} {value : Value} {rule : Rule}
    (hvalue : value.NullFree) (h : ofValue field value = .ok rule) : rule.IsRanked := by
  obtain ⟨entries, rfl, ⟨hextra, hget⟩ | ⟨severity, hextra⟩⟩ := extra_of_value h
  · have hfree : Table.NullFree rule.extra := by
      rw [hextra]
      exact Table.forall_mem_put_all nofun fun entry hentry =>
        hvalue.entries entry (List.mem_filter.mp hentry).1
    have hnone : Table.get? "severity" rule.extra = none := by
      rcases List.mem_pair.mp hget with hnone | hnull
      · exact hnone
      · cases hfree.get? hnull
    exact ⟨.warning, by rw [Rule.severity, hnone]; rfl⟩
  · exact ⟨severity, by rw [Rule.severity, hextra, Table.get?_put_self]; rfl⟩

/-- Every rule that values are read as is read from one of them. -/
theorem exists_of_mem_of_values [Library] {field : String} {first : Nat} {values : List Value}
    {rules : List Rule} (h : ofValues field first values = .ok rules) {rule : Rule}
    (hmem : rule ∈ rules) : ∃ item, ∃ value ∈ values, ofValue item value = .ok rule := by
  induction values generalizing first rules with
  | nil =>
      cases h
      cases hmem
  | cons value values ih =>
      obtain ⟨own, hown, h⟩ := bind_eq_ok.mp h
      obtain ⟨others, hothers, h⟩ := bind_eq_ok.mp h
      cases h
      rcases List.mem_cons.mp hmem with rfl | hmem
      · exact ⟨_, value, List.mem_cons_self, hown⟩
      · obtain ⟨item, other, hother, hrule⟩ := ih hothers hmem
        exact ⟨item, other, List.mem_cons_of_mem _ hother, hrule⟩

/-! ## Built-in rules -/

section BuiltIn

variable (pattern id : String) (severity : Severity) (message : String)

/-- The further fields of a built-in rule are tidy. -/
theorem built_in_tidy : (builtInRule pattern id severity message).IsTidy where
  distinct := by
    show ["id", "severity", "message"].Nodup
    decide
  apart := by
    simp [builtInRule, ownSpellings]

/-- A built-in rule has one of the three severities. -/
theorem built_in_ranked : (builtInRule pattern id severity message).IsRanked :=
  ⟨severity, rfl⟩

end BuiltIn

/-- The built-in rules are such rules. -/
theorem exists_of_mem_built_in {rule : Rule} (h : rule ∈ builtInRules) :
    ∃ pattern id severity message, rule = builtInRule pattern id severity message := by
  revert rule
  simp only [builtInRules, stopRule, printRule, List.forall_mem_cons]
  exact ⟨⟨_, _, _, _, rfl⟩, ⟨_, _, _, _, rfl⟩, ⟨_, _, _, _, rfl⟩, ⟨_, _, _, _, rfl⟩,
    ⟨_, _, _, _, rfl⟩, nofun⟩

/-- The further fields of the rule on indentation are tidy. -/
theorem indentation_tidy : indentationRule.IsTidy :=
  built_in_tidy "" "indentation" .warning "Incorrect indentation"

/-- The rule on indentation has one of the three severities. -/
theorem indentation_ranked : indentationRule.IsRanked :=
  built_in_ranked "" "indentation" .warning "Incorrect indentation"

end Rule

/-! ## Configurations -/

namespace Config

/-- A rule of a configuration is built in, or it is read from a value without null. -/
def Describes [Library] (rule : Rule) : Prop :=
  rule ∈ builtInRules ∨
    ∃ field, ∃ value : Value, value.NullFree ∧ Rule.ofValue field value = .ok rule

/-- The rules of a table without null. -/
theorem rules_of_table [Library] {scope : String} {entries : Table} {config : Config}
    (hentries : entries.NullFree) (h : ofTable scope entries = .ok config) :
    ∀ rule ∈ config.rules, Describes rule := by
  obtain ⟨rules, hrules, h⟩ := bind_eq_ok.mp h
  obtain ⟨_, -, h⟩ := bind_eq_ok.mp h
  obtain ⟨_, -, h⟩ := bind_eq_ok.mp h
  obtain ⟨_, -, h⟩ := bind_eq_ok.mp h
  cases h
  intro rule hrule
  unfold rulesOf at hrules
  split at hrules
  case h_1 value hget =>
      unfold Rule.ofArray at hrules
      split at hrules
      case h_1 items =>
          obtain ⟨item, own, hown, hvalue⟩ := Rule.exists_of_mem_of_values hrules hrule
          exact .inr ⟨item, own, (hentries.get? hget).items own hown, hvalue⟩
      case h_2 => cases hrules
  case h_2 =>
      cases hrules
      exact .inl hrule

/-- The rules of a general project file without null. -/
theorem rules_of_project_table [Library] {entries : Table} {config : Config}
    (hentries : entries.NullFree)
    (h : ofProjectTable entries = .ok config) : ∀ rule ∈ config.rules, Describes rule := by
  have hdefault : ∀ rule ∈ ({} : Config).rules, Describes rule := fun _ hrule => .inl hrule
  unfold ofProjectTable at h
  split at h
  case h_1 tools htools =>
      split at h
      case h_1 own hown =>
          split at h
          · cases h
            exact hdefault
          · exact rules_of_table (((hentries.get? htools).entries.get? hown).entries) h
      case h_2 =>
          cases h
          exact hdefault
  case h_2 =>
      cases h
      exact hdefault

/-- There is no null in a document that is read. -/
theorem read_document_null_free {tree : FileTree} {cwd : Location} {path : Path} {entries : Table}
    (h : readDocument tree cwd path = .ok entries) : entries.NullFree := by
  obtain ⟨bytes, -, h⟩ := bind_eq_ok.mp h
  obtain ⟨text, -, h⟩ := bind_eq_ok.mp h
  split at h
  case h_1 hparse =>
      cases h
      exact Toml.parse_null_free hparse
  case h_2 => cases h
  case h_3 => cases h

/-- The rules of a project. -/
theorem rules_of_load [Library] {tree : FileTree} {cwd : Location} {directory : Path}
    {config : Config}
    (h : load tree cwd directory = .ok config) : ∀ rule ∈ config.rules, Describes rule := by
  unfold load at h
  dsimp only at h
  split at h
  · obtain ⟨entries, hentries, h⟩ := bind_eq_ok.mp h
    exact rules_of_table (read_document_null_free hentries) h
  · split at h
    · obtain ⟨entries, hentries, h⟩ := bind_eq_ok.mp h
      exact rules_of_project_table (read_document_null_free hentries) h
    · cases h
      exact fun _ hrule => .inl hrule

/-- The rules of a configuration are tidy. -/
theorem Describes.tidy [Library] {rule : Rule} (h : Describes rule) : rule.IsTidy := by
  rcases h with hbuilt | ⟨field, value, -, hvalue⟩
  · obtain ⟨pattern, id, severity, message, rfl⟩ := Rule.exists_of_mem_built_in hbuilt
    exact Rule.built_in_tidy pattern id severity message
  · exact Rule.tidy_of_value hvalue

/-- The rules of a configuration have one of the three severities. -/
theorem Describes.ranked [Library] {rule : Rule} (h : Describes rule) : rule.IsRanked := by
  rcases h with hbuilt | ⟨field, value, hfree, hvalue⟩
  · obtain ⟨pattern, id, severity, message, rfl⟩ := Rule.exists_of_mem_built_in hbuilt
    exact Rule.built_in_ranked pattern id severity message
  · exact Rule.ranked_of_value hfree hvalue

end Config

/-! ## Warnings -/

namespace Lint

/-- A warning on a file is about its indentation, or it comes from a rule of the configuration. -/
theorem rule_of_inspect_file [Library] {tree : FileTree} {cwd : Location} {inspector : Inspector}
    {path : Path} {result : Inspection.Result}
    (h : inspectFile tree cwd inspector path = .ok result) {warning : Warning}
    (hmem : warning ∈ result.warnings) :
    warning.rule = indentationRule ∨ warning.rule ∈ inspector.rules := by
  obtain ⟨bytes, -, hinspect⟩ := bind_eq_ok.mp h
  rcases Inspection.warning_cases hinspect hmem with ⟨index, -, rfl⟩ | ⟨rule, hrule, hwarns⟩
  · exact .inl rfl
  · obtain ⟨-, regex, -, hit, -, -, rfl⟩ := hwarns
    exact .inr hrule

/-- A warning of a run is about the indentation of a file, or it comes from a rule of the
configuration, however the run is carried out. -/
theorem rule_of_warning [Library] {schedule : Nat → Nat} {tree : FileTree} {cwd : Location}
    {target : Target} {files : List Location} {workers : Int} {warnings : List Warning}
    (h : (lintScheduled schedule tree cwd target files workers).outcome = .ok warnings)
    {warning : Warning} (hmem : warning ∈ warnings) :
    warning.rule = indentationRule ∨ warning.rule ∈ target.config.rules := by
  rw [lint_scheduled_outcome] at h
  obtain ⟨location, -, result, hinspect, hwarning⟩ := mem_outcome_serially h hmem
  exact rule_of_inspect_file hinspect hwarning

/-- What holds of the rule on indentation and of all rules of the configuration holds of the rules of
all warnings. -/
theorem forall_rule_of_warning [Library] {P : Rule → Prop} {schedule : Nat → Nat} {tree : FileTree}
    {cwd : Location} {target : Target} {files : List Location} {workers : Int}
    {warnings : List Warning}
    (h : (lintScheduled schedule tree cwd target files workers).outcome = .ok warnings)
    (hindentation : P indentationRule) (hrules : ∀ rule ∈ target.config.rules, P rule) :
    ∀ warning ∈ warnings, P warning.rule := by
  intro warning hwarning
  rcases rule_of_warning h hwarning with heq | hrule
  · rwa [heq]
  · exact hrules _ hrule

end Lint

end ChannelLint
