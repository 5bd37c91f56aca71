import ChannelLint.Proofs.ConfiguredRules

/-!
# Tables of rules

Which tables are rules, and which rules they are. A rule has four fields of its own
(`Rule.OwnField`), and three of them have two spellings. A table is read entry by entry, so of two
spellings the later one counts (`Table.last?`), and the first entry whose value its field does not
admit is the one that is blamed (`Rule.FirstMistake`). Only when all entries fit is the pattern
missed, then the severity looked at, and last of all the pattern read. `Rule.table_accepted_iff` says
all this of every table: `Rule.IsAcceptable` is when it is a rule, `Rule.Configures` which rule it is
and `Rule.Refuses` what is wrong with it otherwise.
-/

namespace ChannelLint

open Pattern (Regex)

/-! ## Later entries -/

namespace Table

/-- The value of the last entry under one of the keys. -/
def last? (keys : List String) (entries : Table) : Option Value :=
  ((entries.filter fun entry => entry.1 ∈ keys).getLast?).map Prod.snd

/-- An entry counts unless a later one does. -/
theorem last?_cons (keys : List String) (entry : String × Value) (rest : Table) :
    last? keys (entry :: rest) =
      (last? keys rest).or (if entry.1 ∈ keys then some entry.2 else none) := by
  unfold last?
  split
  case isTrue hkey =>
      rw [List.filter_cons_of_pos (by simpa using hkey), List.getLast?_cons]
      cases (rest.filter fun entry => entry.1 ∈ keys).getLast? <;> rfl
  case isFalse hkey => rw [List.filter_cons_of_neg (by simpa using hkey), Option.or_none]

/-- The last value under the keys stands under one of them. -/
theorem mem_of_last? {keys : List String} {entries : Table} {value : Value}
    (h : last? keys entries = some value) : ∃ key ∈ keys, (key, value) ∈ entries := by
  obtain ⟨entry, hlast, rfl⟩ := Option.map_eq_some_iff.mp h
  obtain ⟨hentry, hkey⟩ := List.mem_filter.mp (List.mem_of_getLast? hlast)
  exact ⟨entry.1, by simpa using hkey, hentry⟩

/-- There is a last value under the keys if there is one at all. -/
theorem last?_eq_none_iff {keys : List String} {entries : Table} :
    last? keys entries = none ↔ ∀ entry ∈ entries, entry.1 ∉ keys := by
  simp [last?]

/-- Entries under new and distinct keys are put at the end. -/
theorem put_all_eq_append {entries new : Table} (h : ((entries ++ new).map Prod.fst).Nodup) :
    putAll entries new = entries ++ new := by
  induction new generalizing entries with
  | nil => exact (List.append_nil entries).symm
  | cons entry new ih =>
      have hnew : entry.1 ∉ entries.map Prod.fst := by
        intro hmem
        rw [List.map_append, List.nodup_append] at h
        exact h.2.2 _ hmem _ (by simp) rfl
      have hstep : putAll entries (entry :: new) = putAll (entries ++ [entry]) new := by
        rw [← put_of_not_mem hnew]
        rfl
      rw [hstep, ih (by simpa using h), List.append_assoc, List.singleton_append]

end Table

/-! ## Severities -/

namespace Severity

/-- The words that stand for a severity. -/
def spellings : Severity → List String
  | info => ["info"]
  | warning => ["warning", "warn"]
  | error => ["error"]

/-- The text is a word for the severity, in any letter case and with any blanks around it. -/
def IsSpelled (severity : Severity) (text : String) : Prop :=
  String.ofList (Text.lower (Text.trim text.toList)) ∈ severity.spellings

/-- The severity of a text is the one that it spells. -/
theorem of_text_eq_some_iff {text : String} {severity : Severity} :
    ofText? text = some severity ↔ severity.IsSpelled text := by
  unfold ofText? IsSpelled ofName?
  generalize String.ofList (Text.lower (Text.trim text.toList)) = word
  cases severity <;> grind [spellings]

/-- The name of a severity spells it. -/
theorem name_spelled (severity : Severity) : severity.IsSpelled severity.name := by
  unfold IsSpelled
  cases severity <;> decide

end Severity

namespace Rule

/-! ## Own fields -/

/-- The switches of a rule. -/
inductive Switch where
  | caseSensitive
  | includeComments
  | disabled

namespace Switch

/-- The keys under which the switch may stand. -/
def spellings : Switch → List String
  | caseSensitive => ["case_sensitive", "case-sensitive"]
  | includeComments => ["include_comments", "include-comments"]
  | disabled => ["disabled"]

/-- Whether the switch is on in a rule. -/
def isOn (rule : Rule) : Switch → Bool
  | caseSensitive => rule.caseSensitive
  | includeComments => rule.includeComments
  | disabled => rule.disabled

/-- The rule with the switch on or off. -/
def put (rule : Rule) (b : Bool) : Switch → Rule
  | caseSensitive => { rule with caseSensitive := b }
  | includeComments => { rule with includeComments := b }
  | disabled => { rule with disabled := b }

end Switch

/-- The fields that a rule has itself. -/
inductive OwnField where
  | pattern
  | switch (switch : Switch)

namespace OwnField

/-- The keys under which the field may stand. -/
def spellings : OwnField → List String
  | pattern => ["pattern", "regex"]
  | switch s => s.spellings

/-- Whether the field admits the value: the pattern is a text that is not empty, and a switch is a
truth value. -/
def Admits (value : Value) : OwnField → Prop
  | pattern => ∃ text, value = .string text ∧ text ≠ ""
  | switch _ => ∃ b, value = .bool b

/-- The mistake of a field that stands at a path with a value that it does not admit. -/
def mistake (path : String) : OwnField → ConfigError
  | pattern => .notPatternText path
  | switch _ => .notBoolean path

/-- The value of the field in a rule. -/
def valueIn (rule : Rule) : OwnField → Value
  | pattern => .string rule.pattern
  | switch s => .bool (s.isOn rule)

/-- The rule with a value in the field. -/
def put (rule : Rule) : OwnField → Value → Rule
  | pattern, .string text => { rule with pattern := text }
  | switch s, .bool b => s.put rule b
  | _, _ => rule

/-- Whether the field is the pattern. -/
def isPattern : OwnField → Bool
  | pattern => true
  | switch _ => false

/-- A key is one of a rule's own if a field may stand under it. -/
theorem mem_own_spellings {key : String} :
    key ∈ ownSpellings ↔ ∃ own : OwnField, key ∈ own.spellings := by
  have hswitches : (∃ s : Switch, key ∈ s.spellings) ↔ key ∈ Switch.caseSensitive.spellings ∨
      key ∈ Switch.includeComments.spellings ∨ key ∈ Switch.disabled.spellings :=
    ⟨fun ⟨s, h⟩ => by cases s <;> simp [h], by rintro (h | h | h) <;> exact ⟨_, h⟩⟩
  have hfields : (∃ own : OwnField, key ∈ own.spellings) ↔
      key ∈ pattern.spellings ∨ ∃ s : Switch, key ∈ s.spellings :=
    ⟨fun ⟨own, h⟩ => by cases own with
      | pattern => exact .inl h
      | switch s => exact .inr ⟨s, h⟩,
     by rintro (h | ⟨s, h⟩); exacts [⟨pattern, h⟩, ⟨switch s, h⟩]⟩
  rw [hfields, hswitches]
  simp [ownSpellings, spellings, Switch.spellings, or_assoc]

/-- No key belongs to two fields. -/
theorem mem_spellings_iff {key : String} {own : OwnField} (h : key ∈ own.spellings)
    (other : OwnField) : key ∈ other.spellings ↔ own = other := by
  rcases own with _ | (_ | _ | _) <;> rcases other with _ | (_ | _ | _) <;>
    grind [spellings, Switch.spellings]

/-- The field has the value that is put into it, and all other fields stay as they are. -/
theorem value_in_put {own : OwnField} {value : Value} (h : own.Admits value) (rule : Rule)
    {key : String} (hkey : key ∈ own.spellings) (other : OwnField) :
    other.valueIn (own.put rule value) =
      if key ∈ other.spellings then value else other.valueIn rule := by
  have hsame := mem_spellings_iff hkey other
  cases own with
  | pattern =>
      obtain ⟨text, rfl, -⟩ := h
      cases other <;> simp_all [put, valueIn, Switch.isOn]
  | switch s =>
      obtain ⟨b, rfl⟩ := h
      cases s <;> rcases other with _ | (_ | _ | _) <;>
        simp_all [put, valueIn, Switch.put, Switch.isOn]

end OwnField

/-! ## Reading entries -/

/-- Each own field that may stand under the key of the entry admits its value. -/
def Fits (entry : String × Value) : Prop :=
  ∀ own : OwnField, entry.1 ∈ own.spellings → own.Admits entry.2

/-- An entry fits if its field admits its value. -/
theorem fits_of_own {entry : String × Value} {own : OwnField} (hkey : entry.1 ∈ own.spellings)
    (h : own.Admits entry.2) : Fits entry := by
  intro other hother
  obtain rfl := (OwnField.mem_spellings_iff hkey other).mp hother
  exact h

/-- A further field fits with any value. -/
theorem fits_of_further {entry : String × Value} (h : entry.1 ∉ ownSpellings) : Fits entry :=
  fun own hkey => absurd (OwnField.mem_own_spellings.mpr ⟨own, hkey⟩) h

/-- The cause names the first entry that does not fit. -/
def FirstMistake (field : String) (entries : Table) (cause : ConfigError) : Prop :=
  ∃ before key value after, ∃ own : OwnField, entries = before ++ (key, value) :: after ∧
    (∀ entry ∈ before, Fits entry) ∧ key ∈ own.spellings ∧ ¬ own.Admits value ∧
    cause = own.mistake (field ++ "." ++ key)

/-- All entries fit, or there is a first one that does not. -/
theorem fits_or_mistake (field : String) (entries : Table) :
    (∀ entry ∈ entries, Fits entry) ∨ ∃ cause, FirstMistake field entries cause := by
  induction entries with
  | nil => exact .inl nofun
  | cons entry rest ih =>
      by_cases hentry : Fits entry
      · rcases ih with hrest | ⟨cause, before, key, value, after, own, rfl, hbefore, hown⟩
        · exact .inl (List.forall_mem_cons.mpr ⟨hentry, hrest⟩)
        · exact .inr ⟨cause, entry :: before, key, value, after, own, rfl,
            List.forall_mem_cons.mpr ⟨hentry, hbefore⟩, hown⟩
      · simp only [Fits, not_forall] at hentry
        obtain ⟨own, hkey, hvalue⟩ := hentry
        exact .inr ⟨_, [], entry.1, entry.2, rest, own, rfl, nofun, hkey, hvalue, rfl⟩

section Entries

variable {field : String} {seen : Bool} {rule : Rule} {key : String} {value : Value} {rest : Table}

/-- The keys of the pattern. -/
theorem is_pattern_key_iff : isPatternKey key = true ↔ key ∈ OwnField.pattern.spellings := by
  simp [isPatternKey, OwnField.spellings]

/-- The key of a switch sets it. -/
theorem set_switch_eq {s : Switch} (hkey : key ∈ s.spellings) (rule : Rule) (b : Bool) :
    rule.setSwitch? key b = some (s.put rule b) := by
  cases s with
  | caseSensitive => rcases List.mem_pair.mp hkey with rfl | rfl <;> rfl
  | includeComments => rcases List.mem_pair.mp hkey with rfl | rfl <;> rfl
  | disabled =>
      obtain rfl := List.mem_singleton.mp hkey
      rfl

/-- The key of a switch is none of the pattern. -/
theorem not_pattern_key {s : Switch} (hkey : key ∈ s.spellings) : isPatternKey key = false := by
  have hown : key ∈ (OwnField.switch s).spellings := hkey
  have hother : OwnField.switch s ≠ .pattern := nofun
  rw [← Bool.not_eq_true, is_pattern_key_iff, OwnField.mem_spellings_iff hown]
  exact hother

/-- An entry with a value for an own field is put into it. -/
theorem take_fields_own {own : OwnField} (hkey : key ∈ own.spellings) (hvalue : own.Admits value) :
    takeFields field seen rule ((key, value) :: rest) =
      takeFields field (seen || own.isPattern) (own.put rule value) rest := by
  cases own with
  | pattern =>
      obtain ⟨text, rfl, htext⟩ := hvalue
      simp [takeFields, is_pattern_key_iff.mpr hkey, htext, OwnField.put, OwnField.isPattern]
  | switch s =>
      obtain ⟨b, rfl⟩ := hvalue
      simp [takeFields, not_pattern_key hkey, set_switch_eq hkey, OwnField.put, OwnField.isPattern]

/-- An entry with a value that its field does not admit ends the reading. -/
theorem take_fields_misfit {own : OwnField} (hkey : key ∈ own.spellings)
    (hvalue : ¬ own.Admits value) : takeFields field seen rule ((key, value) :: rest) =
      .error (own.mistake (field ++ "." ++ key)) := by
  cases own with
  | pattern =>
      rw [takeFields.eq_def]
      simp only [is_pattern_key_iff.mpr hkey, if_true]
      split
      case h_1 text =>
          have htext : text = "" := by simpa [OwnField.Admits] using hvalue
          simp [htext, OwnField.mistake]
      case h_2 => rfl
  | switch s =>
      rw [takeFields.eq_def]
      simp only [not_pattern_key hkey, set_switch_eq hkey, Bool.false_eq_true, if_false]
      split
      case h_1 b => exact absurd ⟨b, rfl⟩ hvalue
      case h_2 => rfl

/-- All other entries are kept. -/
theorem take_fields_further (hkey : key ∉ ownSpellings) :
    takeFields field seen rule ((key, value) :: rest) =
      takeFields field seen { rule with extra := Table.put key value rule.extra } rest := by
  rw [mem_own_spellings_iff rule, not_or, Bool.not_eq_true, Bool.not_eq_true,
    Option.isSome_eq_false_iff, Option.isNone_iff_eq_none] at hkey
  rw [takeFields.eq_def]
  simp only [hkey.1, hkey.2, Bool.false_eq_true, if_false]

/-- Of the pattern alone it is seen that it is there. -/
theorem is_pattern_iff {own : OwnField} (hkey : key ∈ own.spellings) :
    own.isPattern = true ↔ key ∈ OwnField.pattern.spellings := by
  rw [OwnField.mem_spellings_iff hkey]
  cases own <;> simp [OwnField.isPattern]

/-- An entry that fits does not end the reading. -/
theorem take_fields_fits (field : String) (seen : Bool) (rule : Rule) {entry : String × Value}
    (h : Fits entry) : ∃ seenNext next, ∀ rest,
      takeFields field seen rule (entry :: rest) = takeFields field seenNext next rest := by
  by_cases hkey : entry.1 ∈ ownSpellings
  · obtain ⟨own, hown⟩ := OwnField.mem_own_spellings.mp hkey
    exact ⟨_, _, fun rest => take_fields_own hown (h own hown)⟩
  · exact ⟨_, _, fun rest => take_fields_further hkey⟩

end Entries

/-- Reading ends with the first mistake. -/
theorem take_fields_mistake {field : String} {seen : Bool} {rule : Rule} {entries : Table}
    {cause : ConfigError} (h : FirstMistake field entries cause) :
    takeFields field seen rule entries = .error cause := by
  obtain ⟨before, key, value, after, own, rfl, hbefore, hkey, hvalue, rfl⟩ := h
  induction before generalizing seen rule with
  | nil => exact take_fields_misfit hkey hvalue
  | cons entry before ih =>
      obtain ⟨hentry, hbefore⟩ := List.forall_mem_cons.mp hbefore
      obtain ⟨seenNext, next, hstep⟩ := take_fields_fits field seen rule hentry
      rw [List.cons_append, hstep]
      exact ih hbefore

/-- Entries that fit are all read. Every own field has the last value under its keys, if there is
one. -/
theorem take_fields_ok {entries : Table} (h : ∀ entry ∈ entries, Fits entry) (field : String)
    (seen : Bool) (rule : Rule) : ∃ next, takeFields field seen rule entries =
      .ok (seen || (Table.last? OwnField.pattern.spellings entries).isSome, next) ∧
      ∀ own : OwnField,
        own.valueIn next = (Table.last? own.spellings entries).getD (own.valueIn rule) := by
  induction entries generalizing seen rule with
  | nil => exact ⟨rule, by simp [takeFields, Table.last?], fun own => rfl⟩
  | cons entry rest ih =>
      obtain ⟨hentry, hrest⟩ := List.forall_mem_cons.mp h
      simp only [Table.last?_cons]
      by_cases hkey : entry.1 ∈ ownSpellings
      case pos =>
          obtain ⟨own, hown⟩ := OwnField.mem_own_spellings.mp hkey
          obtain ⟨next, hnext, hvalues⟩ := ih hrest (seen || own.isPattern) (own.put rule entry.2)
          refine ⟨next, ?_, fun other => ?_⟩
          · rw [take_fields_own hown (hentry own hown), hnext]
            have hpattern := is_pattern_iff hown
            cases Table.last? OwnField.pattern.spellings rest <;> split <;> simp_all
          · rw [hvalues, OwnField.value_in_put (hentry own hown) rule hown]
            cases Table.last? other.spellings rest <;> split <;> simp
      case neg =>
          obtain ⟨next, hnext, hvalues⟩ :=
            ih hrest seen { rule with extra := Table.put entry.1 entry.2 rule.extra }
          have hown : ∀ own : OwnField, entry.1 ∉ own.spellings := fun own hown =>
            hkey (OwnField.mem_own_spellings.mpr ⟨own, hown⟩)
          refine ⟨next, ?_, fun other => ?_⟩
          · rw [take_fields_further hkey, hnext, if_neg (hown .pattern), Option.or_none]
          · rw [hvalues, if_neg (hown other), Option.or_none]
            cases other with
            | pattern => rfl
            | switch s => cases s <;> rfl

/-! ## Severities of rules -/

/-- The value may stand for the severity of a rule: it is null, which counts as absent, or a text
that spells one. -/
def IsSeverity (value : Value) : Prop :=
  value = .null ∨ ∃ text, ∃ severity : Severity, value = .string text ∧ severity.IsSpelled text

/-- The mistake of a severity that stands at a path. -/
inductive SeverityMistake (path : String) : Value → ConfigError → Prop
  | notText {value : Value} : value ≠ .null → (∀ text, value ≠ .string text) →
      SeverityMistake path value (.notString path)
  | unknown {text : String} : (∀ severity : Severity, ¬ severity.IsSpelled text) →
      SeverityMistake path (.string text) (.unknownSeverity path)

/-- A further field is kept as it is; only a severity is put under its name. -/
inductive Keeps : String × Value → String × Value → Prop
  | other {entry : String × Value} : entry.1 ≠ "severity" → Keeps entry entry
  | absent : Keeps ("severity", .null) ("severity", .null)
  | severity {text : String} {severity : Severity} : severity.IsSpelled text →
      Keeps ("severity", .string text) ("severity", .string severity.name)

/-- Nothing but a severity is changed. -/
theorem Keeps.eq_of_ne {entry kept : String × Value} (h : Keeps entry kept)
    (hne : entry.1 ≠ "severity") : kept = entry := by
  cases h with
  | other => rfl
  | absent => exact absurd rfl hne
  | severity => exact absurd rfl hne

/-- A value is a severity, or there is a mistake. -/
theorem is_severity_or_mistake (path : String) (value : Value) :
    IsSeverity value ∨ ∃ cause, SeverityMistake path value cause := by
  cases value with
  | null => exact .inl (.inl rfl)
  | string text =>
      by_cases h : ∃ severity : Severity, severity.IsSpelled text
      · obtain ⟨severity, hseverity⟩ := h
        exact .inl (.inr ⟨text, severity, rfl, hseverity⟩)
      · exact .inr ⟨_, .unknown (not_exists.mp h)⟩
  | _ => exact .inr ⟨_, .notText nofun nofun⟩

/-- With its severity under the name, a table keeps all its entries. -/
theorem keeps_put {extra : Table} (hkeys : (extra.map Prod.fst).Nodup) {text : String}
    {severity : Severity} (htext : ("severity", .string text) ∈ extra)
    (hseverity : severity.IsSpelled text) :
    List.Forall₂ Keeps extra (Table.put "severity" (.string severity.name) extra) := by
  induction extra with
  | nil => cases htext
  | cons entry rest ih =>
      obtain ⟨hentry, hrest⟩ := List.nodup_cons.mp hkeys
      rcases List.mem_cons.mp htext with rfl | htext
      · have hothers : ∀ other ∈ rest, other.1 ≠ "severity" := fun other hother heq =>
          hentry (List.mem_map.mpr ⟨other, hother, heq⟩)
        exact .cons (.severity hseverity)
          (List.forall₂_same.mpr fun other hother => .other (hothers other hother))
      · have hne : entry.1 ≠ "severity" := fun heq =>
          hentry (List.mem_map.mpr ⟨_, htext, heq.symm⟩)
        have hput : Table.put "severity" (.string severity.name) (entry :: rest) =
            entry :: Table.put "severity" (.string severity.name) rest := by
          simp [Table.put, hne]
        rw [hput]
        exact .cons (.other hne) (ih hrest htext)

section Severities

variable {rule : Rule} (hkeys : (rule.extra.map Prod.fst).Nodup)
include hkeys

/-- A severity that may stand in a rule is put under its name. -/
theorem normalize_severity_ok (field : String)
    (h : ∀ value, ("severity", value) ∈ rule.extra → IsSeverity value) :
    ∃ extra, normalizeSeverity field rule = .ok { rule with extra := extra } ∧
      List.Forall₂ Keeps rule.extra extra := by
  cases hget : Table.get? "severity" rule.extra with
  | none =>
      refine ⟨rule.extra, by simp only [normalizeSeverity, hget], List.forall₂_same.mpr ?_⟩
      rintro ⟨key, value⟩ hentry
      refine .other ?_
      rintro rfl
      cases hget.symm.trans (Table.get?_of_mem hkeys hentry)
  | some value =>
      rcases h value (Table.mem_of_get? hget) with rfl | ⟨text, severity, rfl, hseverity⟩
      · refine ⟨rule.extra, by simp only [normalizeSeverity, hget], List.forall₂_same.mpr ?_⟩
        rintro ⟨key, value⟩ hentry
        by_cases hkey : key = "severity"
        · subst hkey
          obtain rfl := Option.some.inj (hget.symm.trans (Table.get?_of_mem hkeys hentry))
          exact .absent
        · exact .other hkey
      · refine ⟨_, ?_, keeps_put hkeys (Table.mem_of_get? hget) hseverity⟩
        simp only [normalizeSeverity, hget, Severity.of_text_eq_some_iff.mpr hseverity]

/-- A mistaken severity is refused. -/
theorem normalize_severity_mistake {field : String} {value : Value} {cause : ConfigError}
    (hvalue : ("severity", value) ∈ rule.extra)
    (h : SeverityMistake (field ++ ".severity") value cause) :
    normalizeSeverity field rule = .error cause := by
  have hget := Table.get?_of_mem hkeys hvalue
  cases h with
  | notText hnull htext =>
      simp only [normalizeSeverity, hget]
  | unknown hunknown =>
      rename_i text
      have hnone : Severity.ofText? text = none :=
        Option.eq_none_iff_forall_ne_some.mpr fun severity hsome =>
          hunknown severity (Severity.of_text_eq_some_iff.mp hsome)
      simp only [normalizeSeverity, hget, hnone]

end Severities

/-! ## Tables -/

/-- When a table is a rule: every value of an own field is such as the field admits, the pattern is
there, the severity may stand in a rule, and the pattern that counts can be read. -/
structure IsAcceptable [Library] (entries : Table) : Prop where
  fits : ∀ entry ∈ entries, Fits entry
  pattern : ∃ entry ∈ entries, entry.1 ∈ OwnField.pattern.spellings
  severity : ∀ value, ("severity", value) ∈ entries → IsSeverity value
  readable : ∀ text, Table.last? OwnField.pattern.spellings entries = some (.string text) →
    ∃ regex, Regex.parse {} text.toList = .ok regex

/-- Which rule a table configures: of the keys of the pattern and of each switch the last one counts,
a switch that is not there is off, and all other entries are kept in their order. -/
structure Configures (entries : Table) (rule : Rule) : Prop where
  pattern : Table.last? OwnField.pattern.spellings entries = some (.string rule.pattern)
  switch : ∀ s : Switch, .bool (s.isOn rule) = (Table.last? s.spellings entries).getD (.bool false)
  extra : List.Forall₂ Keeps (furtherFields entries) rule.extra

/-- What is wrong with a table: each mistake is found only if there is none of those before it. -/
inductive Refuses [Library] (field : String) (entries : Table) : LintError → Prop
  | ownField {cause : ConfigError} : FirstMistake field entries cause →
      Refuses field entries (.config cause)
  | noPattern : (∀ entry ∈ entries, Fits entry) →
      (∀ entry ∈ entries, entry.1 ∉ OwnField.pattern.spellings) →
      Refuses field entries (.config (.missingPattern field))
  | severity {value : Value} {cause : ConfigError} : (∀ entry ∈ entries, Fits entry) →
      (∃ entry ∈ entries, entry.1 ∈ OwnField.pattern.spellings) →
      ("severity", value) ∈ entries → SeverityMistake (field ++ ".severity") value cause →
      Refuses field entries (.config cause)
  | unreadable {text : String} {fault : Pattern.PatternError} :
      (∀ entry ∈ entries, Fits entry) →
      (∀ value, ("severity", value) ∈ entries → IsSeverity value) →
      Table.last? OwnField.pattern.spellings entries = some (.string text) →
      Regex.parse {} text.toList = .error fault →
      Refuses field entries (.ofPattern (.invalidPattern field text) fault)

section Tables

variable {field : String} {entries : Table}

/-- If all entries fit, then the last value of the pattern is a text that is not empty. -/
theorem text_of_last_pattern (hfits : ∀ entry ∈ entries, Fits entry) {value : Value}
    (h : Table.last? OwnField.pattern.spellings entries = some value) :
    ∃ text, value = .string text ∧ text ≠ "" := by
  obtain ⟨key, hkey, hmem⟩ := Table.mem_of_last? h
  exact hfits _ hmem .pattern hkey

/-- If all entries fit and the pattern is there, then its last value is a text. -/
theorem exists_last_pattern (hfits : ∀ entry ∈ entries, Fits entry)
    (hpattern : ∃ entry ∈ entries, entry.1 ∈ OwnField.pattern.spellings) :
    ∃ text, text ≠ "" ∧
      Table.last? OwnField.pattern.spellings entries = some (.string text) := by
  cases hlast : Table.last? OwnField.pattern.spellings entries with
  | none =>
      obtain ⟨entry, hentry, hkey⟩ := hpattern
      exact absurd hkey (Table.last?_eq_none_iff.mp hlast entry hentry)
  | some value =>
      obtain ⟨text, rfl, htext⟩ := text_of_last_pattern hfits hlast
      exact ⟨text, htext, rfl⟩

/-- A table is acceptable, or there is something wrong with it. -/
theorem acceptable_or_refuses [Library] (field : String) (entries : Table) :
    IsAcceptable entries ∨ ∃ error, Refuses field entries error := by
  rcases fits_or_mistake field entries with hfits | ⟨cause, hmistake⟩
  case inr => exact .inr ⟨_, .ownField hmistake⟩
  by_cases hpattern : ∃ entry ∈ entries, entry.1 ∈ OwnField.pattern.spellings
  case neg =>
      have hnone : ∀ entry ∈ entries, entry.1 ∉ OwnField.pattern.spellings :=
        fun entry hentry hkey => hpattern ⟨entry, hentry, hkey⟩
      exact .inr ⟨_, .noPattern hfits hnone⟩
  by_cases hseverity : ∀ value, ("severity", value) ∈ entries → IsSeverity value
  case neg =>
      simp only [not_forall] at hseverity
      obtain ⟨value, hvalue, hnot⟩ := hseverity
      obtain ⟨cause, hcause⟩ :=
        (is_severity_or_mistake (field ++ ".severity") value).resolve_left hnot
      exact .inr ⟨_, .severity hfits hpattern hvalue hcause⟩
  obtain ⟨text, -, hlast⟩ := exists_last_pattern hfits hpattern
  cases hparse : Regex.parse {} text.toList with
  | error fault => exact .inr ⟨_, .unreadable hfits hseverity hlast hparse⟩
  | ok regex =>
      refine .inl ⟨hfits, hpattern, hseverity, fun other hother => ⟨regex, ?_⟩⟩
      obtain rfl : text = other := Value.string.inj (Option.some.inj (hlast.symm.trans hother))
      exact hparse

/-- The own fields of a rule that is read from entries that fit. -/
theorem of_fields_fitting (field : String) (hfits : ∀ entry ∈ entries, Fits entry) : ∃ taken,
    ofFields field (.table entries) =
      (if (Table.last? OwnField.pattern.spellings entries).isSome then normalizeSeverity field taken
        else .error (.missingPattern field)) ∧
      (∀ own : OwnField, own.valueIn taken =
        (Table.last? own.spellings entries).getD (own.valueIn { pattern := "" })) ∧
      taken.extra = Table.putAll [] (furtherFields entries) := by
  obtain ⟨taken, htaken, hvalues⟩ := take_fields_ok hfits field false { pattern := "" }
  exact ⟨taken, by rw [ofFields, htaken]; rfl, hvalues, take_fields_extra htaken⟩

/-- A table whose fields are refused is refused. -/
theorem of_value_error [Library] {value : Value} {cause : ConfigError}
    (h : ofFields field value = .error cause) : ofValue field value = .error (.config cause) := by
  rw [ofValue, h]
  rfl

variable (hkeys : (entries.map Prod.fst).Nodup)
include hkeys

/-- The further fields of a table with distinct keys are put together as they are. -/
theorem put_all_further_fields :
    Table.putAll [] (furtherFields entries) = furtherFields entries := by
  have hdistinct : ((furtherFields entries).map Prod.fst).Nodup :=
    hkeys.sublist (List.filter_sublist.map Prod.fst)
  exact Table.put_all_eq_append (by simpa using hdistinct)

/-- The severity is a further field. -/
theorem severity_mem_iff {taken : Rule}
    (h : taken.extra = Table.putAll [] (furtherFields entries)) (value : Value) :
    ("severity", value) ∈ taken.extra ↔ ("severity", value) ∈ entries := by
  have hfurther : "severity" ∉ ownSpellings := by decide
  rw [h, put_all_further_fields hkeys, furtherFields, List.mem_filter]
  simp [hfurther]

/-- An acceptable table configures a rule. -/
theorem of_value_ok [Library] (field : String) (h : IsAcceptable entries) :
    ∃ rule, ofValue field (.table entries) = .ok rule ∧ Configures entries rule := by
  obtain ⟨text, -, hlast⟩ := exists_last_pattern h.fits h.pattern
  obtain ⟨regex, hregex⟩ := h.readable text hlast
  obtain ⟨taken, htaken, hvalues, hextra⟩ := of_fields_fitting field h.fits
  have hdistinct : (taken.extra.map Prod.fst).Nodup := hextra ▸ (further_fields_tidy entries).1
  obtain ⟨extra, hnormal, hkeeps⟩ := normalize_severity_ok hdistinct field fun value hvalue =>
    h.severity value ((severity_mem_iff hkeys hextra value).mp hvalue)
  have hpattern : Value.string taken.pattern = .string text := by
    have hvalue := hvalues .pattern
    rwa [hlast] at hvalue
  obtain rfl := Value.string.inj hpattern
  refine ⟨{ taken with extra := extra }, ?_, hlast, fun s => ?_, ?_⟩
  · have hcheck : checkPattern field { taken with extra := extra } = .ok () := by
      simp only [checkPattern, hregex]
    rw [hlast, Option.isSome_some, if_pos rfl, hnormal] at htaken
    rw [ofValue, htaken]
    simp only [Except.mapError, bind, Except.bind, hcheck]
    rfl
  · have hswitch := hvalues (.switch s)
    cases s <;> exact hswitch
  · rwa [hextra, put_all_further_fields hkeys] at hkeeps

/-- A table with a mistake is refused with the error that names it. -/
theorem of_value_refused [Library] {error : LintError} (h : Refuses field entries error) :
    ofValue field (.table entries) = .error error := by
  cases h with
  | @ownField cause hmistake =>
      have hfields : ofFields field (.table entries) = .error cause := by
        rw [ofFields, take_fields_mistake hmistake]
        rfl
      exact of_value_error hfields
  | noPattern hfits hnone =>
      obtain ⟨taken, htaken, -, -⟩ := of_fields_fitting field hfits
      rw [Table.last?_eq_none_iff.mpr hnone] at htaken
      exact of_value_error htaken
  | severity hfits hpattern hvalue hmistake =>
      obtain ⟨text, -, hlast⟩ := exists_last_pattern hfits hpattern
      obtain ⟨taken, htaken, -, hextra⟩ := of_fields_fitting field hfits
      have hdistinct : (taken.extra.map Prod.fst).Nodup := hextra ▸ (further_fields_tidy entries).1
      rw [hlast, Option.isSome_some, if_pos rfl, normalize_severity_mistake hdistinct
        ((severity_mem_iff hkeys hextra _).mpr hvalue) hmistake] at htaken
      exact of_value_error htaken
  | unreadable hfits hseverity hlast hparse =>
      obtain ⟨taken, htaken, hvalues, hextra⟩ := of_fields_fitting field hfits
      have hdistinct : (taken.extra.map Prod.fst).Nodup := hextra ▸ (further_fields_tidy entries).1
      obtain ⟨extra, hnormal, -⟩ := normalize_severity_ok hdistinct field fun value hvalue =>
        hseverity value ((severity_mem_iff hkeys hextra value).mp hvalue)
      have hvalue := hvalues .pattern
      rw [hlast] at hvalue
      obtain rfl := Value.string.inj hvalue
      have hcheck : checkPattern field { taken with extra := extra } =
          .error (.ofPattern (.invalidPattern field taken.pattern) _) :=
        check_pattern_eq_error.mpr ⟨_, hparse, rfl⟩
      rw [hlast, Option.isSome_some, if_pos rfl, hnormal] at htaken
      rw [ofValue, htaken]
      simp only [Except.mapError, bind, Except.bind, hcheck]

/-- A table of distinct keys is a rule exactly if it is acceptable. The rule has the last pattern of
the table and each switch under its last spelling, and it keeps all other entries in their order, with
the severity under its name. Otherwise the error is about the first entry that does not fit, or else
about a missing pattern, or else about the severity, or else about the pattern that cannot be read. -/
theorem table_accepted_iff [Library] (field : String) :
    ((∃ rule, ofValue field (.table entries) = .ok rule) ↔ IsAcceptable entries) ∧
      (∀ rule, ofValue field (.table entries) = .ok rule → Configures entries rule) ∧
      ∀ error, ofValue field (.table entries) = .error error ↔ Refuses field entries error := by
  have haccepted : (∃ rule, ofValue field (.table entries) = .ok rule) ↔ IsAcceptable entries := by
    constructor
    · rintro ⟨rule, hrule⟩
      refine (acceptable_or_refuses field entries).resolve_right ?_
      rintro ⟨error, hrefuses⟩
      cases hrule.symm.trans (of_value_refused hkeys hrefuses)
    · intro hacceptable
      obtain ⟨rule, hrule, -⟩ := of_value_ok hkeys field hacceptable
      exact ⟨rule, hrule⟩
  refine ⟨haccepted, ?_, fun error => ⟨?_, of_value_refused hkeys⟩⟩
  · intro rule hrule
    obtain ⟨other, hother, hconfigures⟩ := of_value_ok hkeys field (haccepted.mp ⟨rule, hrule⟩)
    obtain rfl := Except.ok.inj (hrule.symm.trans hother)
    exact hconfigures
  · intro herror
    rcases acceptable_or_refuses field entries with hacceptable | ⟨other, hrefuses⟩
    · obtain ⟨rule, hrule⟩ := haccepted.mpr hacceptable
      cases herror.symm.trans hrule
    · obtain rfl := Except.error.inj (herror.symm.trans (of_value_refused hkeys hrefuses))
      exact hrefuses

end Tables

/-- A table with both spellings of the pattern and of a switch, and one with two mistakes and no
pattern. -/
theorem table_accepted_iff_spellings :
    let entries : Table := [("regex", .string "("), ("case-sensitive", .bool true),
      ("id", .integer 7), ("pattern", .string "b*"), ("severity", .string " Warn\n"),
      ("case_sensitive", .bool false), ("note", .null)]
    let mistaken : Table := [("severity", .string "fatal"), ("disabled", .string "no"),
      ("include_comments", .integer 1)]
    ((entries.map Prod.fst).Nodup ∧ (mistaken.map Prod.fst).Nodup) ∧
      (∃ rule, ofValue "rules[0]" (.table entries) = .ok rule ∧ rule.pattern = "b*" ∧
        rule.caseSensitive = false ∧ rule.extra =
          [("id", .integer 7), ("severity", .string "warning"), ("note", .null)]) ∧
      ofValue "rules[1]" (.table mistaken) =
        .error (.config (.notBoolean "rules[1].disabled")) := by
  intro entries mistaken
  have hkeys : (entries.map Prod.fst).Nodup := by decide
  have hmistaken : (mistaken.map Prod.fst).Nodup := by decide
  refine ⟨⟨hkeys, hmistaken⟩, ?_, ?_⟩
  · have hok : (ofValue "rules[0]" (.table entries)).isOk = true := by decide +kernel
    obtain ⟨rule, hrule⟩ := exists_eq_ok hok
    obtain ⟨hpattern, hswitch, hextra⟩ := (table_accepted_iff hkeys "rules[0]").2.1 rule hrule
    refine ⟨rule, hrule, ?_, ?_, ?_⟩
    · exact (Value.string.inj (Option.some.inj hpattern)).symm
    · exact Value.bool.inj (hswitch .caseSensitive)
    · have hfurther : furtherFields entries = [("id", .integer 7),
          ("severity", .string " Warn\n"), ("note", .null)] := rfl
      rw [hfurther] at hextra
      generalize rule.extra = extra at hextra
      rcases hextra with _ | ⟨hid, _ | ⟨hseverity, _ | ⟨hnote, ⟨⟩⟩⟩⟩
      obtain rfl := hid.eq_of_ne (by decide)
      obtain rfl := hnote.eq_of_ne (by decide)
      cases hseverity with
      | other hne => exact absurd rfl hne
      | @severity _ severity hspelled =>
          have hwarning : Severity.ofText? " Warn\n" = some .warning := by decide +kernel
          rw [← Severity.of_text_eq_some_iff, hwarning] at hspelled
          cases hspelled
          rfl
  · have hmistake : FirstMistake "rules[1]" mistaken (.notBoolean "rules[1].disabled") := by
      refine ⟨[("severity", .string "fatal")], "disabled", .string "no",
        [("include_comments", .integer 1)], .switch .disabled, rfl, ?_, ?_, ?_, by decide⟩
      · exact List.forall_mem_singleton.mpr (fits_of_further (by decide))
      · decide
      · rintro ⟨b, hb⟩
        cases hb
    exact ((table_accepted_iff hmistaken "rules[1]").2.2 _).mpr (.ownField hmistake)

end Rule

end ChannelLint
