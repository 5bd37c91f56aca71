import ChannelLint.Scan
import ChannelLint.Proofs.SearchSpan

/-!
# Hits and warnings of rules

What one round of the scan does and what a whole scan therefore reports: every hit is a span of the
text, and the line it names is the number of line feeds before it (`hits_line`), although lines are
counted from hit to hit only. A scan drops hits on suppressed lines as it goes, and what it gives
are the other hits of a scan that drops none (`hits_suppressed`). `mem_warnings` traces a warning
back to the rule and the hit it comes from.
-/

namespace ChannelLint

/-- A computation in two steps returns a value exactly if both steps do. -/
theorem bind_eq_ok {ε α β : Type} {first : Except ε α} {second : α → Except ε β} {result : β} :
    (first >>= second) = .ok result ↔ ∃ value, first = .ok value ∧ second value = .ok result := by
  cases first <;> simp [bind, Except.bind]

/-- A computation that succeeds returns a value. -/
theorem exists_eq_ok {ε α : Type} {result : Except ε α} (h : result.isOk = true) :
    ∃ value, result = .ok value := by
  cases result with
  | error error => cases h
  | ok value => exact ⟨value, rfl⟩

/-- Filtering what two computations return together filters what each of them returns. -/
theorem filter_append_ok {ε α : Type} (keep : α → Bool) (first second : Except ε (List α)) :
    (do
      let own ← first
      let others ← second
      pure (own ++ others)).map (List.filter keep) =
      (do
        let own ← first.map (List.filter keep)
        let others ← second.map (List.filter keep)
        pure (own ++ others)) := by
  cases first with
  | error error => rfl
  | ok own =>
      cases second with
      | error error => rfl
      | ok others => exact congrArg Except.ok (List.filter_append own others)

namespace Scan

open Pattern (SpansText)

/-! ## Counting lines -/

/-- The line feeds of the text before a place. -/
theorem feeds_between_zero (text : Array Char) (stop : Nat) :
    feedsBetween text 0 stop = Text.lineFeeds (text.toList.take stop) := by
  simp [feedsBetween]

/-- Line feeds are counted in stages. -/
theorem feeds_between_add (text : Array Char) {middle stop : Nat} (h : middle ≤ stop) :
    feedsBetween text 0 middle + feedsBetween text middle stop = feedsBetween text 0 stop := by
  have hcut : text.toList.take stop =
      text.toList.take middle ++ (text.toList.drop middle).take (stop - middle) := by
    rw [← List.take_add, Nat.add_sub_cancel' h]
  simp only [feeds_between_zero]
  simp [feedsBetween, Text.lineFeeds, hcut]

variable {search : Nat → Option Pattern.Match} {text : Array Char} {suppressed : List Nat}

/-- The search goes on behind the start of a match. -/
theorem start_le_resume (found : Pattern.Match) (h : found.start ≤ found.stop) :
    found.start ≤ resume found := by
  unfold resume
  split <;> omega

/-- The hits from a place on name the number of line feeds before them, if lines have been counted
up to a place before it. -/
theorem hits_from_line (hsearch : SpansText text search) {fuel cursor counted line : Nat}
    (hcounted : counted ≤ cursor) (hline : line = feedsBetween text 0 counted) {hit : Hit}
    (h : hit ∈ hitsFrom search text suppressed fuel cursor counted line) :
    hit.line = feedsBetween text 0 hit.found.start := by
  -- the count is carried from hit to hit, and no hit starts before the place it has come to
  induction fuel generalizing cursor counted line with
  | zero => simp [hitsFrom] at h
  | succ fuel ih =>
      simp only [hitsFrom] at h
      split at h
      · simp at h
      · split at h
        case h_1 => simp at h
        case h_2 found hfound =>
            obtain ⟨hstart, hstop, hsize⟩ := hsearch _ _ hfound
            have hhere : line + feedsBetween text counted found.start =
                feedsBetween text 0 found.start := by
              rw [hline, feeds_between_add text (Nat.le_trans hcounted hstart)]
            split at h
            case isTrue => exact ih (start_le_resume found hstop) hhere h
            case isFalse =>
                rcases List.mem_cons.mp h with rfl | h
                · exact hhere
                · exact ih (start_le_resume found hstop) hhere h

/-- Every hit names the number of line feeds before it. -/
theorem hits_line (hsearch : SpansText text search) {hit : Hit}
    (h : hit ∈ hits search text suppressed) : hit.line = feedsBetween text 0 hit.found.start := by
  unfold hits at h
  split at h
  · simp at h
  · exact hits_from_line hsearch (Nat.le_refl 0) (by simp [feedsBetween, Text.lineFeeds]) h

/-! ## Dropping hits -/

/-- From a place on, the loop that drops hits gives those of the loop that drops none which are not
on suppressed lines. -/
theorem hits_from_suppressed (search : Nat → Option Pattern.Match) (text : Array Char)
    (suppressed : List Nat) (fuel cursor counted line : Nat) :
    hitsFrom search text suppressed fuel cursor counted line =
      (hitsFrom search text [] fuel cursor counted line).filter fun hit =>
        !suppressed.contains hit.line := by
  induction fuel generalizing cursor counted line with
  | zero => rfl
  | succ fuel ih =>
      simp only [hitsFrom]
      split
      · rfl
      · split
        case h_1 => rfl
        case h_2 found hfound =>
            -- both loops go on alike behind the hit, whether it is dropped or not
            rw [ih]
            by_cases hhere : line + feedsBetween text counted found.start ∈ suppressed <;>
              simp [hhere]

/-- A scan with suppressed lines gives the hits of the one without that are on other lines. -/
theorem hits_suppressed (search : Nat → Option Pattern.Match) (text : Array Char)
    (suppressed : List Nat) : hits search text suppressed =
      (hits search text []).filter fun hit => !suppressed.contains hit.line := by
  unfold hits
  split
  · rfl
  · exact hits_from_suppressed search text suppressed _ _ _ _

/-- The hits of a rule that is switched on are those of its pattern. -/
theorem rule_hits_enabled [Library] {rule : Rule} {regex : Pattern.Regex}
    (henabled : rule.disabled = false) (hregex : compile rule = .ok regex) :
    ruleHits rule suppressed text = .ok (hits (regex.search rule.flags text) text suppressed) := by
  simp only [ruleHits, henabled, hregex, Bool.false_eq_true, ite_false, bind, Except.bind, pure,
    Except.pure]

/-- The hits of a rule with suppressed lines are its hits on the other lines. -/
theorem rule_hits_suppressed [Library] (rule : Rule) (suppressed : List Nat) (text : Array Char) :
    ruleHits rule suppressed text =
      (ruleHits rule [] text).map (List.filter fun hit => !suppressed.contains hit.line) := by
  unfold ruleHits
  split
  · rfl
  · cases compile rule with
    | error error => rfl
    | ok regex => exact congrArg Except.ok (hits_suppressed _ _ _)

/-! ## From warnings back to hits -/

/-- The warning comes from a hit of the rule in the text on a line that is not suppressed. -/
def WarnsOf [Library] (path : Path) (suppressed : List Nat) (text : Array Char) (rule : Rule)
    (warned : Warning) : Prop :=
  rule.disabled = false ∧ ∃ regex, compile rule = .ok regex ∧
    ∃ hit ∈ hits (regex.search rule.flags text) text [],
      hit.line ∉ suppressed ∧ warned = warning rule path text hit

/-- A warning of a rule comes from one of its hits. -/
theorem mem_rule_warnings [Library] {rule : Rule} {path : Path} {found : List Warning}
    {warned : Warning}
    (h : ruleWarnings rule path suppressed text = .ok found) (hmem : warned ∈ found) :
    WarnsOf path suppressed text rule warned := by
  obtain ⟨found, hhits, heq⟩ := bind_eq_ok.mp h
  cases heq
  obtain ⟨hit, hhit, rfl⟩ := List.mem_map.mp hmem
  unfold ruleHits at hhits
  split at hhits
  case isTrue =>
      cases hhits
      simp at hhit
  case isFalse hdisabled =>
      obtain ⟨regex, hregex, heq⟩ := bind_eq_ok.mp hhits
      cases heq
      rw [hits_suppressed] at hhit
      obtain ⟨hmem, hline⟩ := List.mem_filter.mp hhit
      exact ⟨by simpa using hdisabled, regex, hregex, hit, hmem, by simpa using hline, rfl⟩

/-- A warning comes from a hit of one of the rules in the text that the rule looks at. -/
theorem mem_warnings [Library] {path : Path} {withComments withoutComments : Array Char}
    {rules : List Rule} {found : List Warning} {warned : Warning}
    (h : warnings path suppressed withComments withoutComments rules = .ok found)
    (hmem : warned ∈ found) :
    ∃ rule ∈ rules, WarnsOf path suppressed
      (if rule.includeComments then withComments else withoutComments) rule warned := by
  induction rules generalizing found with
  | nil =>
      cases h
      simp at hmem
  | cons rule rest ih =>
      obtain ⟨own, hown, h⟩ := bind_eq_ok.mp h
      obtain ⟨others, hothers, heq⟩ := bind_eq_ok.mp h
      cases heq
      rcases List.mem_append.mp hmem with hmem | hmem
      · exact ⟨rule, List.mem_cons_self, mem_rule_warnings hown hmem⟩
      · obtain ⟨other, hrule, hwarns⟩ := ih hothers hmem
        exact ⟨other, List.mem_cons_of_mem _ hrule, hwarns⟩

end Scan

end ChannelLint
