import ChannelLint.Proofs.AcceptedRules
import ChannelLint.Proofs.JsonOutput
import ChannelLint.Proofs.RuleTables

/-!
# Listed rules

The fields of a rule are listed as a table: the further fields first, and then its own. None of the
further fields has a key of an own field, so the table can be taken apart again where it was put
together, and reading it gives back the rule (`Rule.IsNormal.of_value`). What has to be known of a
rule for this is that it is such as reading leaves it: `Rule.IsNormal` holds of every rule that comes
out of a table (`Rule.normal_of_value`) and of the built-in ones. `Rule.listed_rules_resolve` says
this of single rules and of all rules that are listed for a project.
-/

namespace ChannelLint

open Pattern (Regex)

/-! ## Later entries of tables in a row -/

/-- In two tables in a row, the entries of the second come later. -/
theorem Table.last?_append (keys : List String) (first second : Table) :
    last? keys (first ++ second) = (last? keys second).or (last? keys first) := by
  induction first with
  | nil => simp [last?]
  | cons entry first ih => rw [List.cons_append, last?_cons, last?_cons, ih, Option.or_assoc]

namespace Rule

/-! ## Tables of rules -/

/-- The entries of the fields that a rule has itself. -/
def ownEntries (rule : Rule) : Table :=
  [("pattern", .string rule.pattern),
   ("case_sensitive", .bool rule.caseSensitive),
   ("include_comments", .bool rule.includeComments),
   ("disabled", .bool rule.disabled)]

/-- The rule is such as reading leaves it. -/
structure IsNormal [Library] (rule : Rule) : Prop where
  tidy : rule.IsTidy
  named : rule.pattern ≠ ""
  readable : rule.IsReadable
  severity : ∀ value, ("severity", value) ∈ rule.extra →
    value = .null ∨ ∃ severity : Severity, value = .string severity.name

section Tables

variable {rule : Rule}

/-- Each own field stands under one of its keys with the value that it has in the rule. -/
theorem mem_own_entries {entry : String × Value} (h : entry ∈ rule.ownEntries) :
    ∃ own : OwnField, entry.1 ∈ own.spellings ∧ entry.2 = own.valueIn rule := by
  simp only [ownEntries, List.mem_cons, List.not_mem_nil, or_false] at h
  rcases h with rfl | rfl | rfl | rfl
  · exact ⟨.pattern, List.mem_cons_self, rfl⟩
  · exact ⟨.switch .caseSensitive, List.mem_cons_self, rfl⟩
  · exact ⟨.switch .includeComments, List.mem_cons_self, rfl⟩
  · exact ⟨.switch .disabled, List.mem_cons_self, rfl⟩

/-- The own fields have own keys. -/
theorem own_entries_own : ∀ entry ∈ rule.ownEntries, entry.1 ∈ ownSpellings := by
  intro entry hentry
  obtain ⟨own, hkey, -⟩ := mem_own_entries hentry
  exact OwnField.mem_own_spellings.mpr ⟨own, hkey⟩

/-- In the table of a tidy rule all keys are distinct. -/
theorem IsTidy.nodup (h : rule.IsTidy) :
    ((rule.extra ++ rule.ownEntries).map Prod.fst).Nodup := by
  have hown : (rule.ownEntries.map Prod.fst).Nodup := by
    simp [ownEntries]
  rw [List.map_append]
  refine h.distinct.append hown ?_
  intro key hextra hkey
  obtain ⟨field, hfield, rfl⟩ := List.mem_map.mp hextra
  obtain ⟨entry, hentry, heq⟩ := List.mem_map.mp hkey
  exact h.apart field hfield (heq ▸ own_entries_own entry hentry)

/-- The table of a tidy rule has the further fields first. -/
theorem IsTidy.to_table (h : rule.IsTidy) : rule.toTable = rule.extra ++ rule.ownEntries :=
  Table.put_all_eq_append h.nodup

/-- The further fields of the table of a tidy rule are those of the rule. -/
theorem IsTidy.further_fields (h : rule.IsTidy) : furtherFields rule.toTable = rule.extra := by
  rw [h.to_table, furtherFields, List.filter_append]
  have hextra : (rule.extra.filter fun entry => entry.1 ∉ ownSpellings) = rule.extra :=
    List.filter_eq_self.mpr fun entry hentry => by simpa using h.apart entry hentry
  have hown : (rule.ownEntries.filter fun entry => entry.1 ∉ ownSpellings) = [] :=
    List.filter_eq_nil_iff.mpr fun entry hentry => by simpa using own_entries_own entry hentry
  rw [hextra, hown, List.append_nil]

/-- Every own field stands in the table of a tidy rule with the value that it has in the rule. -/
theorem IsTidy.last_own (h : rule.IsTidy) (own : OwnField) :
    Table.last? own.spellings rule.toTable = some (own.valueIn rule) := by
  rw [h.to_table, Table.last?_append]
  have hown : Table.last? own.spellings rule.ownEntries = some (own.valueIn rule) := by
    rcases own with _ | (_ | _ | _) <;> rfl
  rw [hown, Option.some_or]

namespace IsNormal

variable [Library] (h : rule.IsNormal)
include h

/-- The table of a normal rule is acceptable. -/
theorem acceptable : IsAcceptable rule.toTable where
  fits := by
    rw [h.tidy.to_table]
    refine List.forall_mem_append.mpr ⟨fun entry hentry => ?_, fun entry hentry => ?_⟩
    · exact fits_of_further (h.tidy.apart entry hentry)
    · obtain ⟨own, hkey, hvalue⟩ := mem_own_entries hentry
      refine fits_of_own hkey ?_
      rw [hvalue]
      cases own with
      | pattern => exact ⟨rule.pattern, rfl, h.named⟩
      | switch s => exact ⟨s.isOn rule, rfl⟩
  pattern := ⟨("pattern", .string rule.pattern), by simp [h.tidy.to_table, ownEntries],
    by simp [OwnField.spellings]⟩
  severity := by
    intro value hvalue
    have hextra : ("severity", value) ∈ rule.extra := by
      simpa [h.tidy.to_table, ownEntries] using hvalue
    rcases h.severity value hextra with rfl | ⟨severity, rfl⟩
    · exact .inl rfl
    · exact .inr ⟨_, severity, rfl, severity.name_spelled⟩
  readable := by
    intro text htext
    rw [h.tidy.last_own .pattern] at htext
    obtain rfl := Value.string.inj (Option.some.inj htext)
    exact h.readable

/-- The further fields of a normal rule are kept as they are. -/
theorem eq_of_keeps {extra : Table} (hextra : List.Forall₂ Keeps rule.extra extra) :
    extra = rule.extra := by
  have hentry : ∀ entry ∈ rule.extra, ∀ kept, Keeps entry kept → entry = kept := by
    rintro ⟨key, value⟩ hmem kept hkeeps
    by_cases hkey : key = "severity"
    case neg => exact (hkeeps.eq_of_ne hkey).symm
    subst hkey
    rcases h.severity value hmem with rfl | ⟨severity, rfl⟩
    · cases hkeeps <;> rfl
    · cases hkeeps with
      | other => rfl
      | @severity _ other hspelled =>
          have hsame := Severity.of_text_eq_some_iff.mpr hspelled
          rw [Severity.of_text_eq_some_iff.mpr severity.name_spelled] at hsame
          rw [Option.some.inj hsame]
  generalize rule.extra = own at hentry hextra
  induction hextra with
  | nil => rfl
  | cons hkeeps hrest ih =>
      obtain ⟨hfirst, hothers⟩ := List.forall_mem_cons.mp hentry
      rw [hfirst _ hkeeps, ih hothers]

/-- The table of a normal rule configures no other rule. -/
theorem eq_of_configures {other : Rule} (hother : Configures rule.toTable other) :
    other = rule := by
  obtain ⟨hpattern, hswitch, hextra⟩ := hother
  rw [h.tidy.last_own .pattern] at hpattern
  have hswitches : ∀ s : Switch, s.isOn other = s.isOn rule := fun s => by
    have hlast : Table.last? s.spellings rule.toTable = some (.bool (s.isOn rule)) :=
      h.tidy.last_own (.switch s)
    have hvalue := hswitch s
    rw [hlast] at hvalue
    exact Value.bool.inj hvalue
  rw [h.tidy.further_fields] at hextra
  obtain ⟨pattern, caseSensitive, includeComments, disabled, extra⟩ := other
  obtain rfl := Value.string.inj (Option.some.inj hpattern)
  obtain rfl := hswitches .caseSensitive
  obtain rfl := hswitches .includeComments
  obtain rfl := hswitches .disabled
  obtain rfl := h.eq_of_keeps hextra
  rfl

/-- The table of a normal rule is read as this rule. -/
theorem of_value (field : String) : ofValue field (.table rule.toTable) = .ok rule := by
  have hkeys : (rule.toTable.map Prod.fst).Nodup := h.tidy.to_table ▸ h.tidy.nodup
  obtain ⟨other, hother, hconfigures⟩ := of_value_ok hkeys field h.acceptable
  rw [hother, h.eq_of_configures hconfigures]

end IsNormal

end Tables

/-! ## Rules of tables -/

/-- The pattern of an accepted rule is not empty. -/
theorem named_of_value [Library] {field : String} {value : Value} {rule : Rule}
    (h : ofValue field value = .ok rule) : rule.pattern ≠ "" := by
  obtain ⟨described, hfields, h⟩ := bind_eq_ok.mp h
  obtain ⟨_, -, h⟩ := bind_eq_ok.mp h
  cases h
  rw [map_error_eq_ok] at hfields
  cases value with
  | table entries =>
      have hfits : ∀ entry ∈ entries, Fits entry := by
        refine (fits_or_mistake field entries).resolve_right ?_
        rintro ⟨cause, hmistake⟩
        rw [ofFields, take_fields_mistake hmistake] at hfields
        cases hfields
      obtain ⟨taken, htaken, hvalues, -⟩ := of_fields_fitting field hfits
      rw [hfields] at htaken
      split at htaken
      case isFalse => cases htaken
      case isTrue hsome =>
          obtain ⟨value, hlast⟩ := Option.isSome_iff_exists.mp hsome
          obtain ⟨text, rfl, htext⟩ := text_of_last_pattern hfits hlast
          have hpattern : taken.pattern = text := by
            have hvalue := hvalues .pattern
            rw [hlast] at hvalue
            exact Value.string.inj hvalue
          rcases normalize_severity_cases htaken.symm with ⟨rfl, -⟩ | ⟨severity, rfl⟩
          · rwa [hpattern]
          · exact hpattern ▸ htext
  | _ => cases hfields

/-- A rule that comes out of a table is normal. -/
theorem normal_of_value [Library] {field : String} {value : Value} {rule : Rule}
    (h : ofValue field value = .ok rule) : rule.IsNormal where
  tidy := tidy_of_value h
  named := named_of_value h
  readable := readable_of_value h
  severity := by
    intro value hvalue
    have hget := Table.get?_of_mem (tidy_of_value h).distinct hvalue
    obtain ⟨entries, -, ⟨-, hnone⟩ | ⟨severity, hextra⟩⟩ := extra_of_value h
    · simp only [hget, List.mem_cons, reduceCtorEq, Option.some.injEq, List.not_mem_nil, or_false,
        false_or] at hnone
      exact .inl hnone
    · rw [hextra, Table.get?_put_self] at hget
      exact .inr ⟨severity, (Option.some.inj hget).symm⟩

/-- The built-in rules are normal. -/
theorem normal_of_built_in [Library] {rule : Rule} (h : rule ∈ builtInRules) : rule.IsNormal where
  tidy := (Config.Describes.tidy (.inl h))
  named := by
    revert rule
    decide
  readable := readable_of_built_in rule h
  severity := by
    intro value hvalue
    obtain ⟨pattern, id, severity, message, rfl⟩ := exists_of_mem_built_in h
    refine .inr ⟨severity, ?_⟩
    simpa [builtInRule] using hvalue

/-- The rules of a configuration are normal. -/
theorem normal_of_describes [Library] {rule : Rule} (h : Config.Describes rule) : rule.IsNormal
    := by
  rcases h with hbuilt | ⟨field, value, -, hvalue⟩
  · exact normal_of_built_in hbuilt
  · exact normal_of_value hvalue

/-! ## Lists of rules -/

/-- The array of the tables of rules. -/
def rows (rules : List Rule) : Value :=
  .array (rules.map fun rule => .table rule.toTable)

/-- The rows of normal rules are read as these rules. -/
theorem of_rows [Library] {rules : List Rule} (h : ∀ rule ∈ rules, rule.IsNormal) (field : String) :
    ofArray field (rows rules) = .ok rules := by
  have hvalues (first : Nat) : ofValues field first (rules.map fun rule => .table rule.toTable) =
      .ok rules := by
    induction rules generalizing first with
    | nil => rfl
    | cons rule rest ih =>
        obtain ⟨hrule, hrest⟩ := List.forall_mem_cons.mp h
        rw [List.map_cons, ofValues, hrule.of_value, ih hrest]
        rfl
  exact hvalues 0

/-- A configuration of nothing but rows has these rules, and defaults for everything else. -/
theorem of_table_rows [Library] {rules : List Rule} (h : ∀ rule ∈ rules, rule.IsNormal)
    (scope : String) : Config.ofTable scope [("rules", rows rules)] = .ok { rules := rules } := by
  have hrules : Config.rulesOf scope [("rules", rows rules)] = .ok rules := by
    simp only [Config.rulesOf, Table.get?, beq_self_eq_true, if_true]
    exact of_rows h _
  rw [Config.ofTable, hrules]
  rfl

/-- What `rules` prints as JSON are the rows of the rules of the project with sorted keys. -/
theorem rules_prints_rows [Library] {showing : Program.Showing} {tree : FileTree}
    {cwd scan : Location}
    {target : Target} {text : String} (hjson : Program.Format.ofText? showing.format = some .json)
    (htarget : Lint.prepare tree cwd scan none = .ok target)
    (htext : (Program.rules (showing.surroundings tree cwd) scan showing.format).map
      Program.Outcome.output = .ok text) :
    text = Json.pretty (Json.sortKeys (rows target.config.rules)) ++ "\n" := by
  simp only [Program.rules, Program.Showing.surroundings, htarget, hjson, Report.rulesJson] at htext
  cases hwritable : Report.requireWritable (target.config.rules.all isWritable) with
  | error error =>
      rw [hwritable] at htext
      cases htext
  | ok done =>
      rw [hwritable] at htext
      exact (Except.ok.inj htext).symm

/-- Reading the table of an accepted rule gives the rule back, with its further fields in the same
order. The rows that `rules` prints as JSON, before their keys are sorted, are a configuration with
the rules of the project. -/
theorem listed_rules_resolve [Library] :
    (∀ (field : String) (value : Value) (rule : Rule), ofValue field value = .ok rule →
      ∀ other, ofValue other (.table rule.toTable) = .ok rule) ∧
    ∀ (tree : FileTree) (cwd scan : Location) (target : Target),
      Lint.prepare tree cwd scan none = .ok target →
      (∀ scope, Config.ofTable scope [("rules", rows target.config.rules)] =
        .ok { rules := target.config.rules }) ∧
      ∀ (showing : Program.Showing) (text : String),
        Program.Format.ofText? showing.format = some .json →
        (Program.rules (showing.surroundings tree cwd) scan showing.format).map
          Program.Outcome.output = .ok text →
        text = Json.pretty (Json.sortKeys (rows target.config.rules)) ++ "\n" := by
  refine ⟨fun field value rule h other => (normal_of_value h).of_value other, ?_⟩
  intro tree cwd scan target htarget
  have hnormal : ∀ rule ∈ target.config.rules, rule.IsNormal := by
    obtain ⟨config, hload, heq⟩ := bind_eq_ok.mp htarget
    obtain rfl := Except.ok.inj heq
    exact fun rule hrule => normal_of_describes (Config.rules_of_load hload rule hrule)
  exact ⟨of_table_rows hnormal, fun showing text hjson htext =>
    rules_prints_rows hjson htarget htext⟩

/-- A table in other spellings, with a severity to put under its name and a null, and a project with a
date in its only rule. -/
theorem listed_rules_resolve_dated :
    let value : Value := .table [("severity", .string " Warn "), ("disabled", .bool true),
      ("regex", .string "a|b"), ("id", .null), ("case-sensitive", .bool true)]
    let config := "[[rules]]\nregex = 'stop'\nseverity = 'ERROR'\nsince = 1979-05-27\n"
    let tree := FileTree.directory [(".brslint.toml", .file (Program.asciiBytes config.toList))]
    let showing : Program.Showing := ⟨100, none, none, fun _ => 0, {}, {}, "json", rfl⟩
    (∃ rule, ofValue "rules[4]" value = .ok rule ∧
      ofValue "rules[0]" (.table rule.toTable) = .ok rule) ∧
    ∃ target text, Lint.prepare tree [] [] none = .ok target ∧
      Config.ofTable "" [("rules", rows target.config.rules)] =
        .ok { rules := target.config.rules } ∧
      (Program.rules (showing.surroundings tree []) [] showing.format).map
        Program.Outcome.output = .ok text ∧
      text = Json.pretty (Json.sortKeys (rows target.config.rules)) ++ "\n" := by
  intro value config tree showing
  constructor
  · have hok : (ofValue "rules[4]" value).isOk = true := by decide +kernel
    obtain ⟨rule, hrule⟩ := exists_eq_ok hok
    exact ⟨rule, hrule, listed_rules_resolve.1 _ _ rule hrule _⟩
  · have hok : (Lint.prepare tree [] [] none).isOk = true := by decide +kernel
    have hprinted : ((Program.rules (showing.surroundings tree []) [] showing.format).map
        Program.Outcome.output).isOk = true := by decide +kernel
    obtain ⟨target, htarget⟩ := exists_eq_ok hok
    obtain ⟨text, htext⟩ := exists_eq_ok hprinted
    obtain ⟨hrows, hlisted⟩ := listed_rules_resolve.2 tree [] [] target htarget
    exact ⟨target, text, htarget, hrows "", htext, hlisted showing text (by decide +kernel) htext⟩

end Rule

end ChannelLint
