import ChannelLint.Proofs.Scanning
import Mathlib.Logic.ExistsUnique

/-!
# A scan reports every match

A search gives the match at the first place from a given one on at which the pattern matches
(`Regex.search_first`). `Scan.Completes` is the loop of a scan without a bound on its rounds, and
`Scan.hits_completes` says that the bound of `Scan.hits` is never what ends it. From the loop it
follows that the hits stand apart from each other and that every place at which the pattern matches
belongs to one of them; `Scan.rule_warnings_enumerate` says so of what a rule reports.
-/

namespace ChannelLint

namespace Pattern

/-- A search gives the match at the first place from the given one on at which there is one, and
nothing exactly if there is no such place up to the end of the text. -/
structure FindsFirst (size : Nat) (matchAt search : Nat → Option Match) : Prop where
  /-- What is found is the match at its place, and there is none before. -/
  first : ∀ pos found, search pos = some found →
    pos ≤ found.start ∧ matchAt found.start = some found ∧
      ∀ earlier, pos ≤ earlier → earlier < found.start → matchAt earlier = none
  /-- Nothing is found exactly if there is no match. -/
  none_iff : ∀ pos, search pos = none ↔
    ∀ later, pos ≤ later → later ≤ size → matchAt later = none

variable {text : Array Char}

/-- What is found in a number of places is the match at the first of them that has one. -/
theorem Regex.search_within_first {regex : Regex} {flags : Flags} {count pos : Nat} {found : Match}
    (hcount : pos + count ≤ text.size + 1)
    (h : regex.searchWithin flags text count pos = some found) :
    pos ≤ found.start ∧ regex.matchAt flags text found.start = some found ∧
      ∀ earlier, pos ≤ earlier → earlier < found.start →
        regex.matchAt flags text earlier = none := by
  induction count generalizing pos with
  | zero => cases h
  | succ count ih =>
      simp only [Regex.searchWithin] at h
      split at h
      case h_1 own hown =>
          cases h
          obtain ⟨rfl, _⟩ := Regex.match_at_span (by omega) hown
          exact ⟨Nat.le_refl _, hown, fun earlier hle hlt => absurd hlt (by omega)⟩
      case h_2 hnone =>
          obtain ⟨hle, hfound, hbefore⟩ := ih (by omega) h
          refine ⟨by omega, hfound, fun earlier hearlier hlt => ?_⟩
          by_cases hhere : earlier = pos
          · rw [hhere, hnone]
          · exact hbefore earlier (by omega) hlt

/-- Nothing is found in a number of places exactly if none of them has a match. -/
theorem Regex.search_within_none {regex : Regex} {flags : Flags} {count pos : Nat} :
    regex.searchWithin flags text count pos = none ↔
      ∀ later, pos ≤ later → later < pos + count → regex.matchAt flags text later = none := by
  induction count generalizing pos with
  | zero => exact ⟨fun _ later hle hlt => absurd hlt (by omega), fun _ => rfl⟩
  | succ count ih =>
      simp only [Regex.searchWithin]
      split
      case h_1 own hown =>
          refine ⟨fun h => (by cases h), fun h => ?_⟩
          rw [h pos (Nat.le_refl _) (by omega)] at hown
          cases hown
      case h_2 hnone =>
          rw [ih]
          refine ⟨fun h later hle hlt => ?_, fun h later hle hlt => h later (by omega) (by omega)⟩
          by_cases hhere : later = pos
          · rw [hhere, hnone]
          · exact h later (by omega) (by omega)

/-- Every search of a pattern gives the first match. -/
theorem Regex.search_first (regex : Regex) (flags : Flags) (text : Array Char) :
    FindsFirst text.size (regex.matchAt flags text) (regex.search flags text) where
  first pos found h := by
    by_cases hpos : pos ≤ text.size
    · exact Regex.search_within_first (by omega) h
    · have hnone : text.size + 1 - pos = 0 := by omega
      simp [Regex.search, hnone, Regex.searchWithin] at h
  none_iff pos := by
    rw [Regex.search, Regex.search_within_none]
    exact ⟨fun h later hle hlt => h later hle (by omega),
      fun h later hle hlt => h later hle (by omega)⟩

end Pattern

namespace Scan

open Pattern (SpansText FindsFirst)

variable {search matchAt : Nat → Option Pattern.Match} {text : Array Char}

/-! ## The loop of a scan -/

/-- The loop of a scan with the hits it gives, from the place `cursor` on; lines have been counted
up to `counted`, where line `line` goes on. The loop ends behind the text, or when a search finds
nothing. -/
inductive Completes (search : Nat → Option Pattern.Match) (text : Array Char) :
    Nat → Nat → Nat → List Hit → Prop where
  | behind {cursor counted line : Nat} : text.size < cursor →
      Completes search text cursor counted line []
  | nothing {cursor counted line : Nat} : cursor ≤ text.size → search cursor = none →
      Completes search text cursor counted line []
  | hit {cursor counted line : Nat} {found : Pattern.Match} {rest : List Hit} :
      cursor ≤ text.size → search cursor = some found →
      Completes search text (resume found) found.start
        (line + feedsBetween text counted found.start) rest →
      Completes search text cursor counted line
        (⟨line + feedsBetween text counted found.start, found⟩ :: rest)

/-- The search goes on where the match ended, and at least one place behind its start. -/
theorem resume_eq_max {found : Pattern.Match} (h : found.start ≤ found.stop) :
    resume found = max found.stop (found.start + 1) := by
  unfold resume
  split <;> omega

/-- As many rounds as there are places from `cursor` on are enough to complete the loop. -/
theorem hits_from_completes (hsearch : SpansText text search) {fuel cursor : Nat}
    (hfuel : text.size + 1 ≤ cursor + fuel) (counted line : Nat) :
    Completes search text cursor counted line
      (hitsFrom search text [] fuel cursor counted line) := by
  induction fuel generalizing cursor counted line with
  | zero => exact .behind hfuel
  | succ fuel ih =>
      simp only [hitsFrom]
      split
      case isTrue hbehind => exact .behind hbehind
      case isFalse hinside =>
          split
          case h_1 hnone => exact .nothing (Nat.le_of_not_lt hinside) hnone
          case h_2 found hfound =>
              obtain ⟨hstart, hstop, _⟩ := hsearch _ _ hfound
              have hresume := resume_eq_max hstop
              exact .hit (Nat.le_of_not_lt hinside) hfound (ih (by omega) _ _)

/-- The hits of a text that is not empty, with no line suppressed, are those of the completed loop. -/
theorem hits_completes (hsearch : SpansText text search) (htext : text.isEmpty = false) :
    Completes search text 0 0 0 (hits search text []) := by
  simp only [hits, htext, Bool.false_eq_true, ite_false]
  exact hits_from_completes hsearch (by omega) 0 0

namespace Completes

variable {cursor counted line : Nat} {found : List Hit}
  (h : Completes search text cursor counted line found)
include h

/-- No hit starts before the place from which the loop goes on. -/
theorem cursor_le (hsearch : SpansText text search) {hit : Hit} (hmem : hit ∈ found) :
    cursor ≤ hit.found.start := by
  induction h with
  | behind | nothing => simp at hmem
  | hit hcursor hfound hrest ih =>
      obtain ⟨hstart, hstop, _⟩ := hsearch _ _ hfound
      rcases List.mem_cons.mp hmem with rfl | hmem
      · exact hstart
      · have hresume := resume_eq_max hstop
        have hlater := ih hmem
        omega

/-- Every hit starts where the search goes on after an earlier one, or later. -/
theorem resume_le (hsearch : SpansText text search) :
    found.Pairwise fun first second => resume first.found ≤ second.found.start := by
  induction h with
  | behind | nothing => exact .nil
  | hit hcursor hfound hrest ih =>
      exact .cons (fun later hlater => hrest.cursor_le hsearch hlater) ih

/-- Every hit is the match at its place, and a span of the text. -/
theorem hit_match (hsearch : SpansText text search) (hfirst : FindsFirst text.size matchAt search)
    {hit : Hit} (hmem : hit ∈ found) :
    matchAt hit.found.start = some hit.found ∧ hit.found.start ≤ hit.found.stop ∧
      hit.found.stop ≤ text.size := by
  induction h with
  | behind | nothing => simp at hmem
  | hit hcursor hfound hrest ih =>
      rcases List.mem_cons.mp hmem with rfl | hmem
      · exact ⟨(hfirst.first _ _ hfound).2.1, (hsearch _ _ hfound).2⟩
      · exact ih hmem

/-- Every hit starts behind the start of an earlier one, and not before its end. -/
theorem later_behind (hsearch : SpansText text search)
    (hfirst : FindsFirst text.size matchAt search) :
    found.Pairwise fun first second => first.found.start < second.found.start ∧
      first.found.stop ≤ second.found.start := by
  refine (h.resume_le hsearch).imp_of_mem fun {first second} hmem _ hle => ?_
  rw [resume_eq_max (h.hit_match hsearch hfirst hmem).2.1] at hle
  omega

/-- Every place from the cursor on at which there is a match belongs to a hit: it lies between the
start of the hit and the place where the search goes on. -/
theorem covers (hfirst : FindsFirst text.size matchAt search) {pos : Nat} (hpos : cursor ≤ pos)
    (hsize : pos ≤ text.size) (hmatch : (matchAt pos).isSome) :
    ∃ hit ∈ found, hit.found.start ≤ pos ∧ pos < resume hit.found := by
  induction h with
  | behind hbehind => omega
  | nothing hcursor hnone =>
      rw [(hfirst.none_iff _).mp hnone pos hpos hsize] at hmatch
      cases hmatch
  | @hit _ _ _ own _ hcursor hfound hrest ih =>
      obtain ⟨_, _, hbefore⟩ := hfirst.first _ _ hfound
      have hstart : own.start ≤ pos := by
        refine Nat.le_of_not_lt fun hlater => ?_
        rw [hbefore pos hpos hlater] at hmatch
        cases hmatch
      -- the place belongs to this hit, or the loop has yet to come to it
      by_cases hresume : pos < resume own
      · exact ⟨_, List.mem_cons_self, hstart, hresume⟩
      · obtain ⟨hit, hmem, hcovers⟩ := ih (by omega)
        exact ⟨hit, List.mem_cons_of_mem _ hmem, hcovers⟩

end Completes

/-- A hit of a pattern is its match at the place of the hit, a span of a text that is not empty. -/
theorem mem_hits_search {regex : Pattern.Regex} {flags : Pattern.Flags} {hit : Hit}
    (h : hit ∈ hits (regex.search flags text) text []) :
    text.isEmpty = false ∧ regex.matchAt flags text hit.found.start = some hit.found ∧
      hit.found.start ≤ hit.found.stop ∧ hit.found.stop ≤ text.size := by
  cases htext : text.isEmpty with
  | true => simp [hits, htext] at h
  | false =>
      have hsearch := regex.search_span flags text
      exact ⟨rfl, (hits_completes hsearch htext).hit_match hsearch (regex.search_first _ _) h⟩

/-! ## What a rule reports -/

/-- The reported matches are those of the pattern, one after the other: none overlaps another, and
every place at which the pattern matches belongs to exactly one of them. -/
structure Enumerates (matchAt : Nat → Option Pattern.Match) (text : Array Char)
    (reported : List MatchedText) : Prop where
  /-- Each starts behind the start of every earlier one. -/
  increasing : reported.Pairwise fun first second => first.start < second.start
  /-- None starts before an earlier one ends. -/
  apart : reported.Pairwise fun first second => first.stop ≤ second.start
  /-- Each is the match of the pattern at its place. -/
  own : ∀ found ∈ reported, ∃ span, matchAt found.start = some span ∧ found = matchedText text span
  /-- Each holds the characters of its span of the text. -/
  characters : ∀ found ∈ reported, found.start ≤ found.stop ∧ found.stop ≤ text.size ∧
    found.text.toList = (text.toList.take found.stop).drop found.start
  /-- No match is lost, and none is reported twice. -/
  complete : ∀ pos ≤ text.size, (matchAt pos).isSome →
    ∃! found, found ∈ reported ∧ found.start ≤ pos ∧ pos < max found.stop (found.start + 1)

/-- The characters of a span. -/
theorem span_text_toList (text : Array Char) (start stop : Nat) :
    (Pattern.spanText text start stop).toList = (text.toList.take stop).drop start := by
  simp [Pattern.spanText, List.drop_take]

/-- In a list whose members stand apart, a place belongs to one member only. -/
theorem eq_of_covers {found : List Hit}
    (happart : found.Pairwise fun first second => resume first.found ≤ second.found.start)
    {first second : Hit} (hfirst : first ∈ found) (hsecond : second ∈ found) {pos : Nat}
    (hpos : first.found.start ≤ pos ∧ pos < resume first.found)
    (hpos' : second.found.start ≤ pos ∧ pos < resume second.found) : first = second := by
  induction happart with
  | nil => simp at hfirst
  | cons hhead hrest ih =>
      rcases List.mem_cons.mp hfirst with rfl | hlater
      · rcases List.mem_cons.mp hsecond with rfl | hlater'
        · rfl
        · have hle := hhead _ hlater'
          omega
      · rcases List.mem_cons.mp hsecond with rfl | hlater'
        · have hle := hhead _ hlater
          omega
        · exact ih hlater hlater'

/-- The hits of a completed loop enumerate the matches. -/
theorem Completes.enumerates {counted line : Nat} {found : List Hit}
    (h : Completes search text 0 counted line found) (hsearch : SpansText text search)
    (hfirst : FindsFirst text.size matchAt search) :
    Enumerates matchAt text (found.map fun hit => matchedText text hit.found) where
  increasing := List.pairwise_map.mpr ((h.later_behind hsearch hfirst).imp And.left)
  apart := List.pairwise_map.mpr ((h.later_behind hsearch hfirst).imp And.right)
  own := by
    intro reported hmem
    obtain ⟨hit, hhit, rfl⟩ := List.mem_map.mp hmem
    exact ⟨hit.found, (h.hit_match hsearch hfirst hhit).1, rfl⟩
  characters := by
    intro reported hmem
    obtain ⟨hit, hhit, rfl⟩ := List.mem_map.mp hmem
    obtain ⟨_, hstop, hsize⟩ := h.hit_match hsearch hfirst hhit
    exact ⟨hstop, hsize, span_text_toList _ _ _⟩
  complete := by
    intro pos hpos hmatch
    have hmax : ∀ hit ∈ found, resume hit.found = max hit.found.stop (hit.found.start + 1) :=
      fun hit hhit => resume_eq_max (h.hit_match hsearch hfirst hhit).2.1
    obtain ⟨hit, hhit, hcovers⟩ := h.covers hfirst (Nat.zero_le pos) hpos hmatch
    refine ⟨matchedText text hit.found, ⟨List.mem_map_of_mem hhit, ?_⟩, ?_⟩
    · rw [hmax hit hhit] at hcovers
      exact hcovers
    · rintro other ⟨hother, hbelongs⟩
      obtain ⟨twin, htwin, rfl⟩ := List.mem_map.mp hother
      have hcovers' : twin.found.start ≤ pos ∧ pos < resume twin.found := by
        rw [hmax twin htwin]
        exact hbelongs
      rw [eq_of_covers (h.resume_le hsearch) htwin hhit hcovers' hcovers]

/-- A rule that is switched on and whose pattern can be read reports, when no line is suppressed,
the hits of the completed loop, and these enumerate the matches of its pattern. -/
theorem rule_warnings_enumerate [Library] {rule : Rule} {regex : Pattern.Regex} {text : Array Char}
    (path : Path) (henabled : rule.disabled = false) (hregex : compile rule = .ok regex)
    (htext : text.isEmpty = false) :
    ∃ found, Completes (regex.search rule.flags text) text 0 0 0 found ∧
      ruleWarnings rule path [] text = .ok (found.map (warning rule path text)) ∧
      Enumerates (regex.matchAt rule.flags text) text
        (found.map fun hit => matchedText text hit.found) := by
  have hsearch := regex.search_span rule.flags text
  have hcompletes := hits_completes hsearch htext
  refine ⟨_, hcompletes, ?_, hcompletes.enumerates hsearch (regex.search_first _ _)⟩
  rw [ruleWarnings, rule_hits_enabled henabled hregex]
  rfl

/-- A pattern with empty matches and others in the text `aba`: it matches at every place, also at
the one behind the last character. -/
theorem rule_warnings_enumerate_aba :
    ∃ regex found, compile { pattern := "a*" } = .ok regex ∧
      (List.range 4).all (fun pos => (regex.matchAt (Rule.flags { pattern := "a*" })
        "aba".toList.toArray pos).isSome) = true ∧
      Completes (regex.search (Rule.flags { pattern := "a*" }) "aba".toList.toArray)
        "aba".toList.toArray 0 0 0 found ∧
      ruleWarnings { pattern := "a*" } (.ofString "a.brs") [] "aba".toList.toArray =
        .ok (found.map (warning { pattern := "a*" } (.ofString "a.brs") "aba".toList.toArray)) ∧
      Enumerates (regex.matchAt (Rule.flags { pattern := "a*" }) "aba".toList.toArray)
        "aba".toList.toArray (found.map fun hit => matchedText "aba".toList.toArray hit.found) := by
  have hmatches : (compile { pattern := "a*" }).toOption.map (fun regex =>
      (List.range 4).all fun pos => (regex.matchAt (Rule.flags { pattern := "a*" })
        "aba".toList.toArray pos).isSome) = some true := by decide +kernel
  cases hregex : compile { pattern := "a*" } with
  | error error =>
      rw [hregex] at hmatches
      cases hmatches
  | ok regex =>
      rw [hregex] at hmatches
      obtain ⟨found, henumerates⟩ := rule_warnings_enumerate (.ofString "a.brs") rfl hregex
        (by decide +kernel : "aba".toList.toArray.isEmpty = false)
      exact ⟨regex, found, rfl, Option.some.inj hmatches, henumerates⟩

end Scan

end ChannelLint
