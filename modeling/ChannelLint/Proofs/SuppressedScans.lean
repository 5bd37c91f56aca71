import ChannelLint.Proofs.MatchEnumeration
import Mathlib.Data.List.Forall2

/-!
# Scans of suppressed texts

`Reports` is the loop of a scan that drops hits on suppressed lines as it goes: a dropped hit moves
the search and the count of lines just as a reported one does. Its hits are those of the loop that
drops none, less the ones on suppressed lines (`Completes.reports`). `Scan.warnings_exact` says what
this means for rules: a rule warns of what the full scan finds outside suppressed lines, each warning
names the number of line feeds before its match, and the warnings of several rules stand one after
the other unless a pattern cannot be read.
-/

namespace ChannelLint.Scan

open Pattern (SpansText)

/-! ## The loop -/

/-- The loop of a scan with the hits it reports, as `Completes`, but a hit on a suppressed line is
dropped when it is found. -/
inductive Reports (search : Nat → Option Pattern.Match) (text : Array Char)
    (suppressed : List Nat) : Nat → Nat → Nat → List Hit → Prop where
  | behind {cursor counted line : Nat} : text.size < cursor →
      Reports search text suppressed cursor counted line []
  | nothing {cursor counted line : Nat} : cursor ≤ text.size → search cursor = none →
      Reports search text suppressed cursor counted line []
  | dropped {cursor counted line : Nat} {found : Pattern.Match} {rest : List Hit} :
      cursor ≤ text.size → search cursor = some found →
      line + feedsBetween text counted found.start ∈ suppressed →
      Reports search text suppressed (resume found) found.start
        (line + feedsBetween text counted found.start) rest →
      Reports search text suppressed cursor counted line rest
  | reported {cursor counted line : Nat} {found : Pattern.Match} {rest : List Hit} :
      cursor ≤ text.size → search cursor = some found →
      line + feedsBetween text counted found.start ∉ suppressed →
      Reports search text suppressed (resume found) found.start
        (line + feedsBetween text counted found.start) rest →
      Reports search text suppressed cursor counted line
        (⟨line + feedsBetween text counted found.start, found⟩ :: rest)

variable {search : Nat → Option Pattern.Match} {text : Array Char}

/-- The loop that drops hits on suppressed lines reports the other hits of the loop that drops
none. -/
theorem Completes.reports {cursor counted line : Nat} {found : List Hit}
    (h : Completes search text cursor counted line found) (suppressed : List Nat) :
    Reports search text suppressed cursor counted line
      (found.filter fun hit => !suppressed.contains hit.line) := by
  induction h with
  | behind hcursor => exact .behind hcursor
  | nothing hcursor hnone => exact .nothing hcursor hnone
  | @hit cursor counted line found rest hcursor hfound hrest ih =>
      by_cases hline : line + feedsBetween text counted found.start ∈ suppressed
      · rw [List.filter_cons_of_neg (by simpa using hline)]
        exact .dropped hcursor hfound hline ih
      · rw [List.filter_cons_of_pos (by simpa using hline)]
        exact .reported hcursor hfound hline ih

/-! ## One rule -/

/-- The warnings that name no suppressed line. -/
def unsuppressed (suppressed : List Nat) (found : List Warning) : List Warning :=
  found.filter fun warned => suppressed.all fun line => warned.line != (line : Int)

/-- The warnings of hits that name no suppressed line are those of the hits that do not. -/
theorem unsuppressed_map (rule : Rule) (path : Path) (suppressed : List Nat) (found : List Hit) :
    unsuppressed suppressed (found.map (warning rule path text)) =
      (found.filter fun hit => !suppressed.contains hit.line).map (warning rule path text) := by
  have hkeep : ∀ hit : Hit, (suppressed.all fun line => (hit.line : Int) != (line : Int)) =
      !suppressed.contains hit.line := by
    intro hit
    rw [Bool.eq_iff_iff]
    simp only [List.all_eq_true, bne_iff_ne, ne_eq, Int.ofNat_inj, Bool.not_eq_true',
      List.contains_eq_mem, decide_eq_false_iff_not]
    exact ⟨fun h hmem => h _ hmem rfl, fun h line hline heq => h (heq ▸ hline)⟩
  rw [unsuppressed, List.filter_map]
  simp only [Function.comp_def, warning, hkeep]

/-- What a rule reports in a text, with no line suppressed (`all`) and on the lines that are not
suppressed (`kept`). -/
structure Scanned [Library] (path : Path) (suppressed : List Nat) (rule : Rule) (text : Array Char)
    (all kept : List Warning) : Prop where
  /-- The warnings when no line is suppressed. -/
  unfiltered : ruleWarnings rule path [] text = .ok all
  /-- The warnings on the lines that are not suppressed. -/
  filtered : ruleWarnings rule path suppressed text = .ok kept
  /-- Suppression takes out the warnings on suppressed lines and changes no other. -/
  kept_eq : kept = unsuppressed suppressed all
  /-- Every warning names the number of line feeds before its match. -/
  line_eq : ∀ warned ∈ all, ∃ found, warned.found = some found ∧
    warned.line = Text.lineFeeds (text.toList.take found.start)
  /-- The kept warnings come from the loop that drops hits as it goes. -/
  loop : text.isEmpty = false → ∃ regex hits, compile rule = .ok regex ∧
    Reports (regex.search rule.flags text) text suppressed 0 0 0 hits ∧
    kept = hits.map (warning rule path text)

/-- A rule that is switched on and whose pattern can be read is scanned with. -/
theorem rule_scanned [Library] {rule : Rule} {regex : Pattern.Regex}
    (henabled : rule.disabled = false) (hregex : compile rule = .ok regex) (path : Path)
    (suppressed : List Nat) (text : Array Char) :
    ∃ all kept, Scanned path suppressed rule text all kept := by
  have hsearch := regex.search_span rule.flags text
  have hwarnings : ∀ lines, ruleWarnings rule path lines text =
      .ok (unsuppressed lines ((hits (regex.search rule.flags text) text []).map
        (warning rule path text))) := by
    intro lines
    rw [unsuppressed_map, ← hits_suppressed, ruleWarnings, rule_hits_enabled henabled hregex]
    rfl
  have hall : ∀ found : List Warning, unsuppressed [] found = found := fun found =>
    List.filter_eq_self.mpr fun _ _ => rfl
  refine ⟨_, _, ⟨by rw [hwarnings, hall], hwarnings suppressed, rfl, ?_, ?_⟩⟩
  · intro warned hwarned
    obtain ⟨hit, hhit, rfl⟩ := List.mem_map.mp hwarned
    refine ⟨matchedText text hit.found, rfl, ?_⟩
    rw [warning, hits_line hsearch hhit, feeds_between_zero]
    rfl
  · intro htext
    exact ⟨regex, _, hregex, (hits_completes hsearch htext).reports suppressed,
      unsuppressed_map rule path suppressed _⟩

/-- A match on a suppressed line counts for where the search and the lines go on. -/
example : (ruleWarnings { pattern := "o" } (.ofString "a.brs") [1]
    "o\no\noo".toList.toArray).toOption.map (·.map Warning.line) = some [0, 2, 2] := by
  decide +kernel

/-! ## Several rules -/

/-- The text that a rule looks at. -/
def lookedAt (withComments withoutComments : Array Char) (rule : Rule) : Array Char :=
  if rule.includeComments then withComments else withoutComments

/-- The rules that are switched on. -/
def enabled (rules : List Rule) : List Rule :=
  rules.filter fun rule => !rule.disabled

/-- The error is that of the first rule which is switched on and whose pattern cannot be read. -/
def FirstUnreadable [Library] (rules : List Rule) (error : LintError) : Prop :=
  ∃ before rule after, rules = before ++ rule :: after ∧ rule.disabled = false ∧
    compile rule = .error error ∧
    ∀ earlier ∈ before, earlier.disabled = false → ∃ regex, compile earlier = .ok regex

/-- The first unreadable rule is the first one, or the first one behind that. -/
theorem first_unreadable_cons [Library] {rule : Rule} {rest : List Rule} {error : LintError} :
    FirstUnreadable (rule :: rest) error ↔
      (rule.disabled = false ∧ compile rule = .error error) ∨
        ((rule.disabled = false → ∃ regex, compile rule = .ok regex) ∧
          FirstUnreadable rest error) := by
  constructor
  · rintro ⟨before, failing, after, hsplit, hswitched, herror, hbefore⟩
    cases before with
    | nil =>
        obtain ⟨rfl, -⟩ := List.cons.inj hsplit
        exact .inl ⟨hswitched, herror⟩
    | cons first before =>
        obtain ⟨rfl, hrest⟩ := List.cons.inj hsplit
        obtain ⟨hfirst, hothers⟩ := List.forall_mem_cons.mp hbefore
        exact .inr ⟨hfirst, before, failing, after, hrest, hswitched, herror, hothers⟩
  · rintro (⟨hswitched, herror⟩ | ⟨hrule, before, failing, after, rfl, hswitched, herror, hbefore⟩)
    · exact ⟨[], rule, rest, rfl, hswitched, herror, by simp⟩
    · exact ⟨rule :: before, failing, after, rfl, hswitched, herror,
        List.forall_mem_cons.mpr ⟨hrule, hbefore⟩⟩

section Rules

variable {path : Path} {suppressed : List Nat} {withComments withoutComments text : Array Char}
  {rule : Rule} {rest : List Rule}

/-- A rule that is switched off warns of nothing, whatever its pattern is. -/
theorem rule_warnings_disabled [Library] (h : rule.disabled = true) :
    ruleWarnings rule path suppressed text = .ok [] := by
  simp only [ruleWarnings, ruleHits, h, ite_true]
  rfl

/-- A rule that is switched on fails with the error of its pattern. -/
theorem rule_warnings_unreadable [Library] {error : LintError} (h : rule.disabled = false)
    (herror : compile rule = .error error) :
    ruleWarnings rule path suppressed text = .error error := by
  simp only [ruleWarnings, ruleHits, h, herror, Bool.false_eq_true, ite_false]
  rfl

/-- A rule is switched off, cannot be read, or has warnings. -/
theorem rule_cases [Library] (path : Path) (suppressed : List Nat) (rule : Rule)
    (text : Array Char) : rule.disabled = true ∨
      (rule.disabled = false ∧ ∃ error, compile rule = .error error) ∨
      (rule.disabled = false ∧ (∃ regex, compile rule = .ok regex) ∧
        ∃ kept, ruleWarnings rule path suppressed text = .ok kept) := by
  cases hswitch : rule.disabled with
  | true => exact .inl rfl
  | false =>
      cases hregex : compile rule with
      | error error => exact .inr (.inl ⟨rfl, error, rfl⟩)
      | ok regex =>
          obtain ⟨all, kept, hscan⟩ := rule_scanned hswitch hregex path suppressed text
          exact .inr (.inr ⟨rfl, ⟨regex, rfl⟩, kept, hscan.filtered⟩)

/-- A rule that is switched off adds nothing. -/
theorem warnings_cons_disabled [Library] (h : rule.disabled = true) :
    warnings path suppressed withComments withoutComments (rule :: rest) =
      warnings path suppressed withComments withoutComments rest := by
  rw [warnings, rule_warnings_disabled h]
  cases warnings path suppressed withComments withoutComments rest <;> rfl

/-- A rule that cannot be read ends the scan, whatever the later rules are. -/
theorem warnings_cons_unreadable [Library] {error : LintError} (h : rule.disabled = false)
    (herror : compile rule = .error error) :
    warnings path suppressed withComments withoutComments (rule :: rest) = .error error := by
  rw [warnings, rule_warnings_unreadable h herror]
  rfl

/-- The warnings of a rule stand in front of those of the later rules. -/
theorem warnings_cons_ok [Library] {kept : List Warning}
    (h : ruleWarnings rule path suppressed (lookedAt withComments withoutComments rule) =
      .ok kept) :
    warnings path suppressed withComments withoutComments (rule :: rest) =
      (warnings path suppressed withComments withoutComments rest).map (kept ++ ·) := by
  rw [lookedAt] at h
  rw [warnings, h]
  cases warnings path suppressed withComments withoutComments rest <;> rfl

/-- The rules fail exactly with the error of the first unreadable one. -/
theorem warnings_eq_error_iff [Library] {rules : List Rule} {error : LintError} :
    warnings path suppressed withComments withoutComments rules = .error error ↔
      FirstUnreadable rules error := by
  induction rules with
  | nil => simp [warnings, FirstUnreadable]
  | cons rule rest ih =>
      rw [first_unreadable_cons, ← ih]
      rcases rule_cases path suppressed rule (lookedAt withComments withoutComments rule) with
        hoff | ⟨hon, other, hother⟩ | ⟨hon, ⟨regex, hregex⟩, kept, hkept⟩
      · simp [warnings_cons_disabled hoff, hoff]
      · simp [warnings_cons_unreadable hon hother, hon, hother]
      · rw [warnings_cons_ok hkept]
        cases warnings path suppressed withComments withoutComments rest <;>
          simp [hon, hregex, Except.map]

/-- The rules succeed exactly with the warnings of those that are switched on, one rule after the
other in their order. -/
theorem warnings_eq_ok_iff [Library] {rules : List Rule} {found : List Warning} :
    warnings path suppressed withComments withoutComments rules = .ok found ↔
      ∃ parts, found = parts.flatten ∧ List.Forall₂ (fun rule kept =>
        ruleWarnings rule path suppressed (lookedAt withComments withoutComments rule) = .ok kept)
        (enabled rules) parts := by
  induction rules generalizing found with
  | nil => simp [warnings, enabled, eq_comm]
  | cons rule rest ih =>
      rcases rule_cases path suppressed rule (lookedAt withComments withoutComments rule) with
        hoff | ⟨hon, other, hother⟩ | ⟨hon, ⟨regex, hregex⟩, kept, hkept⟩
      · rw [warnings_cons_disabled hoff, ih]
        simp [enabled, hoff]
      · have hrule : enabled (rule :: rest) = rule :: enabled rest :=
          List.filter_cons_of_pos (by simp [hon])
        rw [warnings_cons_unreadable hon hother, hrule]
        simp [List.forall₂_cons_left_iff, rule_warnings_unreadable hon hother]
      · have hrule : enabled (rule :: rest) = rule :: enabled rest :=
          List.filter_cons_of_pos (by simp [hon])
        rw [warnings_cons_ok hkept, hrule]
        constructor
        · intro h
          cases hrest : warnings path suppressed withComments withoutComments rest with
          | error error =>
              rw [hrest] at h
              cases h
          | ok others =>
              rw [hrest] at h
              obtain ⟨parts, rfl, hparts⟩ := ih.mp hrest
              exact ⟨kept :: parts, (Except.ok.inj h).symm, .cons hkept hparts⟩
        · rintro ⟨parts, rfl, hparts⟩
          cases hparts with
          | cons hfirst hothers =>
              obtain rfl := Except.ok.inj (hfirst.symm.trans hkept)
              rw [ih.mpr ⟨_, rfl, hothers⟩]
              rfl

end Rules

/-- Some rule is the first unreadable one exactly if there is one that is switched on and cannot be
read. -/
theorem exists_first_unreadable_iff [Library] {rules : List Rule} :
    (∃ error, FirstUnreadable rules error) ↔
      ∃ rule ∈ rules, rule.disabled = false ∧ ∃ error, compile rule = .error error := by
  constructor
  · rintro ⟨error, before, rule, after, rfl, hon, herror, -⟩
    exact ⟨rule, by simp, hon, error, herror⟩
  · rintro ⟨rule, hrule, hon, error, herror⟩
    induction rules with
    | nil => cases hrule
    | cons first rest ih =>
        simp only [first_unreadable_cons]
        by_cases hfirst : first.disabled = false → ∃ regex, compile first = .ok regex
        · rcases List.mem_cons.mp hrule with rfl | hrest
          · obtain ⟨regex, hregex⟩ := hfirst hon
            cases hregex.symm.trans herror
          · obtain ⟨other, hother⟩ := ih hrest
            exact ⟨other, .inr ⟨hfirst, hother⟩⟩
        · obtain ⟨hswitched, hunreadable⟩ := Classical.not_imp.mp hfirst
          cases hother : compile first with
          | error other => exact ⟨other, .inl ⟨hswitched, rfl⟩⟩
          | ok regex => exact absurd ⟨regex, hother⟩ hunreadable

/-- Scans count lines and drop suppressed ones exactly. A rule that is switched on and can be read
warns, with lines suppressed, of what it warns of without in the other lines, and each warning names
the number of line feeds before its match. Several rules warn of what the ones that are switched on
warn of, in their order and each in the text that it looks at, or fail with the error of the first of
them that cannot be read, which happens exactly if there is one. -/
theorem warnings_exact [Library] (path : Path) (suppressed : List Nat)
    (withComments withoutComments : Array Char) (rules : List Rule) :
    (∀ (rule : Rule) (text : Array Char), rule.disabled = false →
      (∃ regex, compile rule = .ok regex) →
        ∃ all kept, Scanned path suppressed rule text all kept) ∧
      (∀ found, warnings path suppressed withComments withoutComments rules = .ok found ↔
        ∃ parts, found = parts.flatten ∧ List.Forall₂ (fun rule kept =>
          ruleWarnings rule path suppressed (lookedAt withComments withoutComments rule) =
            .ok kept) (enabled rules) parts) ∧
      (∀ error, warnings path suppressed withComments withoutComments rules = .error error ↔
        FirstUnreadable rules error) ∧
      ((∃ error, warnings path suppressed withComments withoutComments rules = .error error) ↔
        ∃ rule ∈ rules, rule.disabled = false ∧ ∃ error, compile rule = .error error) := by
  refine ⟨?_, fun found => warnings_eq_ok_iff, fun error => warnings_eq_error_iff, ?_⟩
  · rintro rule text henabled ⟨regex, hregex⟩
    exact rule_scanned henabled hregex path suppressed text
  · simp only [warnings_eq_error_iff]
    exact exists_first_unreadable_iff

end ChannelLint.Scan
