import ChannelLint.Proofs.Indenting
import ChannelLint.Proofs.LineMapping
import ChannelLint.Proofs.MatchEnumeration

/-!
# Which warnings name a line of the file

A warning about indentation names one of the lines it was made from, and so does a warning of a rule
whose match starts within the text that the rule looks at. An empty match behind the last character
names the line after the last line feed; a text that ends with a line feed has no such line.
`inspect_text_line_exists_iff` puts this together: a warning names an existing line unless it is of
this last kind.
-/

namespace ChannelLint

namespace Text

/-! ## Counting lines -/

/-- The lines of a text are its line feeds, and one more if something stands behind the last. -/
theorem split_lines_length (text : List Char) :
    (splitLines text).length =
      lineFeeds text + if text.getLast?.all (· == '\n') then 0 else 1 := by
  fun_induction splitLines text with
  | case1 => rfl
  | case2 c rest hfeed ih =>
      obtain rfl : c = '\n' := by simpa using hfeed
      cases rest with
      | nil => rfl
      | cons d rest =>
          have hfeeds : lineFeeds ('\n' :: d :: rest) = lineFeeds (d :: rest) + 1 := by
            simp [lineFeeds]
          rw [List.length_cons, ih, hfeeds, List.getLast?_cons_cons]
          omega
  | case3 c rest hfeed hlines ih =>
      have hrest : rest = [] := by
        rw [← split_lines_flatten rest, hlines, List.flatten_nil]
      have hc : c ≠ '\n' := by simpa using hfeed
      simp [hrest, lineFeeds, hc]
  | case4 c rest hfeed line lines hlines ih =>
      have hc : c ≠ '\n' := by simpa using hfeed
      cases rest with
      | nil => cases hlines
      | cons d rest =>
          have hfeeds : lineFeeds (c :: d :: rest) = lineFeeds (d :: rest) := by
            rw [lineFeeds, List.count_cons_of_ne hc, lineFeeds]
          rw [List.length_cons, hfeeds, List.getLast?_cons_cons, ← ih, hlines, List.length_cons]

/-- Texts that end as the texts of a row do have the same line feeds. -/
theorem Rows.line_feeds_ends_alike {lines changed : List (List Char)} (h : Rows lines)
    (halike : List.Forall₂ EndsAlike lines changed) :
    lineFeeds changed.flatten = lineFeeds lines.flatten := by
  have hnone : ∀ {body : List Char}, '\n' ∉ body → body.count '\n' = 0 :=
    fun hbody => List.count_eq_zero.mpr hbody
  induction h generalizing changed with
  | nil => cases halike; rfl
  | @last body hbody =>
      cases halike with
      | cons hfirst hrest =>
          cases hrest
          obtain ⟨kept, hkept, rfl⟩ := hfirst body [] hbody (.inl rfl) (by simp)
          simp [lineFeeds, hnone hbody, hnone hkept]
  | @cons body rest hbody hrest ih =>
      cases halike with
      | cons hfirst hothers =>
          obtain ⟨kept, hkept, rfl⟩ := hfirst body ['\n'] hbody (.inr rfl) rfl
          have hlater := ih hothers
          simp only [lineFeeds] at hlater
          simp [lineFeeds, hnone hbody, hnone hkept, hlater]

end Text

open Text

/-! ## Warnings about indentation -/

/-- The flagged ordinals are those of the lines. -/
theorem Indentation.flagged_from_lt {config : IndentConfig} {first index : Nat}
    {steps : List (List Char × IndentStep)} (h : index ∈ flaggedFrom config first steps) :
    index < first + steps.length := by
  induction steps generalizing first with
  | nil => simp [flaggedFrom] at h
  | cons step rest ih =>
      have hrest : index ∈ flaggedFrom config (first + 1) rest →
          index < first + (step :: rest).length := by
        intro hmem
        have hlt := ih hmem
        rw [List.length_cons]
        omega
      rw [flaggedFrom] at h
      split at h
      · rcases List.mem_cons.mp h with rfl | h
        · simp
        · exact hrest h
      · exact hrest h

namespace Inspection

/-- A warning about indentation names one of the lines and has a rule of its own. -/
theorem mem_indent_warnings {inspector : Inspector} {path : Path}
    {lines : List Comment.StrippedLine} {warned : List Warning} {one : Warning}
    (h : indentWarnings inspector path lines = .ok warned) (hmem : one ∈ warned) :
    ∃ index : Nat, index < lines.length ∧ one = ⟨indentationRule, path, index, none⟩ := by
  unfold indentWarnings at h
  split at h
  case h_1 =>
      cases h
      simp at hmem
  case h_2 config _ =>
      obtain ⟨flagged, hflagged, heq⟩ := bind_eq_ok.mp h
      cases heq
      obtain ⟨index, hindex, rfl⟩ := List.mem_map.mp hmem
      refine ⟨index, ?_, rfl⟩
      simp only [misindented] at hflagged
      split at hflagged
      · cases hflagged
      · cases hflagged
        have hlt := Indentation.flagged_from_lt hindex
        simp only [List.length_zip, List.length_map, Nat.zero_add] at hlt
        omega

/-! ## Warnings of rules -/

/-- What a rule looks at has the line feeds of the file. -/
theorem scanned_text_line_feeds (path : Path) (text : List Char) (rule : Rule) :
    lineFeeds (scannedText path text rule) = lineFeeds text := by
  have hfeeds := (split_lines_rows text).line_feeds_ends_alike
    (Comment.seen_ends_alike (.ofPath path) rule.includeComments .outside (splitLines text))
  rw [split_lines_flatten] at hfeeds
  rw [← scanned_lines_flatten]
  exact hfeeds

/-- The warning matches behind the last character of a text that ends with a line feed. -/
def MatchesBehindEnd (path : Path) (text : List Char) (warned : Warning) : Prop :=
  text.getLast? = some '\n' ∧
    ∃ found, warned.found = some found ∧ found.start = (scannedText path text warned.rule).length

/-- A hit that starts within the text names a line of the file. -/
theorem hit_line_lt {path : Path} {text : List Char} {rule : Rule} {start : Nat}
    (h : start < (scannedText path text rule).length) :
    lineFeeds ((scannedText path text rule).take start) < (splitLines text).length := by
  have hrows : Rows (scannedLines path text rule) := Comment.seen_rows _ _ _ _
  rw [← scanned_lines_flatten] at h ⊢
  rw [← scanned_lines_length path text rule]
  exact (hrows.offset_line_feeds h).1

/-- A hit behind the text names a line of the file exactly if the file does not end with a line
feed, and else the one after its last line. -/
theorem hit_line_behind (path : Path) (text : List Char) (rule : Rule) (htext : text ≠ []) :
    lineFeeds (scannedText path text rule) ≤ (splitLines text).length ∧
      (lineFeeds (scannedText path text rule) < (splitLines text).length ↔
        text.getLast? ≠ some '\n') := by
  rw [scanned_text_line_feeds, split_lines_length, List.getLast?_eq_some_getLast htext]
  by_cases hfeed : text.getLast htext = '\n' <;> simp [hfeed]

/-- The line of a hit is the number of line feeds before it. -/
theorem hit_line_eq {path : Path} {text : List Char} {rule : Rule} {regex : Pattern.Regex}
    {hit : Hit} (h : hit ∈ Scan.hits (regex.search rule.flags (scannedText path text rule).toArray)
      (scannedText path text rule).toArray []) :
    hit.line = lineFeeds ((scannedText path text rule).take hit.found.start) := by
  rw [Scan.hits_line (regex.search_span _ _) h, Scan.feeds_between_zero]

/-- A warning of a rule names at most the line after the last one, and that one exactly if it
matches behind the end of a text that ends with a line feed. -/
theorem rule_warning_line {path : Path} {text : List Char} {rule : Rule} {regex : Pattern.Regex}
    {hit : Hit} (h : hit ∈ Scan.hits (regex.search rule.flags (scannedText path text rule).toArray)
      (scannedText path text rule).toArray []) :
    hit.line ≤ (splitLines text).length ∧ (hit.line < (splitLines text).length ↔
      ¬ (text.getLast? = some '\n' ∧ hit.found.start = (scannedText path text rule).length)) := by
  obtain ⟨hempty, _, hstop, hsize⟩ := Scan.mem_hits_search h
  have hline := hit_line_eq h
  simp only [List.size_toArray] at hsize
  by_cases hinside : hit.found.start < (scannedText path text rule).length
  · have hlt := hit_line_lt hinside
    rw [hline]
    exact ⟨Nat.le_of_lt hlt, fun _ hend => by omega, fun _ => hlt⟩
  · have hend : hit.found.start = (scannedText path text rule).length := by omega
    have htext : text ≠ [] := by
      rintro rfl
      simp [scannedText, strippedLines, splitLines, Comment.stripLines, Comment.withComments,
        Comment.withoutComments] at hempty
    rw [hend, List.take_length] at hline
    rw [hline]
    simpa [hend] using hit_line_behind path text rule htext

/-! ## Whole files -/

/-- A warning is about the indentation of a line of the file, or comes from a hit of a rule in the
text that the rule looks at. -/
theorem warning_cases [Library] {inspector : Inspector} {path : Path} {text : List Char}
    {result : Result} {warned : Warning} (h : inspectText inspector path text = .ok result)
    (hmem : warned ∈ result.warnings) :
    (∃ index : Nat, index < (splitLines text).length ∧
        warned = ⟨indentationRule, path, index, none⟩) ∨
      ∃ rule ∈ inspector.rules, Scan.WarnsOf path (Suppression.lines (splitLines text))
        (scannedText path text rule).toArray rule warned := by
  cases hfound : warned.found with
  | some found => exact .inr (warns_of_found h hmem hfound)
  | none =>
      obtain ⟨indentation, others, hindentation, hothers, heq⟩ := inspect_text_ok h
      rw [heq] at hmem
      rcases List.mem_append.mp hmem with hmem | hmem
      · rw [← stripped_lines_length path]
        exact .inl (mem_indent_warnings hindentation hmem)
      · obtain ⟨rule, _, _, _, _, hit, _, _, rfl⟩ := Scan.mem_warnings hothers hmem
        cases hfound

/-- What is seen of the warnings of an inspection is seen of one of them. -/
theorem exists_warning_of_seen {α : Type} {outcome : Except LintError Result} {view : Warning → α}
    {all : List α} {seen : α}
    (h : (outcome.toOption.map fun result => result.warnings.map view) = some all)
    (hseen : seen ∈ all) :
    ∃ result warned, outcome = .ok result ∧ warned ∈ result.warnings ∧ view warned = seen := by
  cases outcome with
  | error error => cases h
  | ok result =>
      cases h
      obtain ⟨warned, hmem, heq⟩ := List.mem_map.mp hseen
      exact ⟨result, warned, rfl, hmem, heq⟩

/-- Every warning names a line of the file or the one after the last, and a line of the file exactly
unless it matches behind the end of a text that ends with a line feed. -/
theorem inspect_text_line_exists_iff [Library] {inspector : Inspector} {path : Path}
    {text : List Char}
    {result : Result} {warned : Warning} (h : inspectText inspector path text = .ok result)
    (hmem : warned ∈ result.warnings) :
    0 ≤ warned.line ∧ warned.line ≤ (splitLines text).length ∧
      (warned.line < (splitLines text).length ↔ ¬ MatchesBehindEnd path text warned) := by
  rcases warning_cases h hmem with ⟨index, hlt, rfl⟩ | ⟨rule, _, _, regex, _, hit, hhit, _, rfl⟩
  · have hnot : ¬ MatchesBehindEnd path text ⟨indentationRule, path, index, none⟩ := by
      rintro ⟨_, found, hsome, _⟩
      cases hsome
    exact ⟨Int.natCast_nonneg index, Int.ofNat_le.mpr (Nat.le_of_lt hlt), fun _ => hnot,
      fun _ => Int.ofNat_lt.mpr hlt⟩
  · obtain ⟨hle, hlt⟩ := rule_warning_line hhit
    have hbehind : MatchesBehindEnd path text
        (Scan.warning rule path (scannedText path text rule).toArray hit) ↔
          text.getLast? = some '\n' ∧
            hit.found.start = (scannedText path text rule).length := by
      simp [MatchesBehindEnd, Scan.warning, Scan.matchedText]
    rw [hbehind, ← hlt]
    simp only [Scan.warning]
    exact ⟨by omega, by omega, by omega⟩

/-- A match behind the last character of a text without a final line feed: its line exists. -/
theorem inspect_text_line_exists_unended :
    ∃ result warned, inspectText ⟨[{ pattern := "x*" }], none⟩ (.ofString "a.brs") "a\nb".toList =
        .ok result ∧ warned ∈ result.warnings ∧
      warned.found = some ⟨"", [], 3, 3⟩ ∧ warned.line = 1 ∧
      0 ≤ warned.line ∧ warned.line ≤ (splitLines "a\nb".toList).length ∧
      (warned.line < (splitLines "a\nb".toList).length ↔
        ¬ MatchesBehindEnd (.ofString "a.brs") "a\nb".toList warned) := by
  have hrun : ((inspectText ⟨[{ pattern := "x*" }], none⟩ (.ofString "a.brs")
      "a\nb".toList).toOption.map fun result => result.warnings.map fun warned =>
        (warned.line, warned.found)) =
      some [(0, some ⟨"", [], 0, 0⟩), (0, some ⟨"", [], 1, 1⟩), (1, some ⟨"", [], 2, 2⟩),
        (1, some ⟨"", [], 3, 3⟩)] := by decide +kernel
  obtain ⟨result, warned, hresult, hmem, hseen⟩ := exists_warning_of_seen hrun
    (show (1, some ⟨"", [], 3, 3⟩) ∈ _ by simp)
  obtain ⟨hline, hfound⟩ := Prod.mk.inj hseen
  exact ⟨result, warned, hresult, hmem, hfound, hline, inspect_text_line_exists_iff hresult hmem⟩

/-- A rule for line starts on a text of one line that ends with a line feed: one of its warnings
names a second line. -/
theorem inspect_text_line_behind_last :
    ∃ result warned, inspectText ⟨[{ pattern := "^" }], none⟩ (.ofString "a.brs") "x\n".toList =
        .ok result ∧ warned ∈ result.warnings ∧
      ¬ (0 ≤ warned.line ∧ warned.line < (splitLines "x\n".toList).length) := by
  have hrun : ((inspectText ⟨[{ pattern := "^" }], none⟩ (.ofString "a.brs")
      "x\n".toList).toOption.map fun result => result.warnings.map Warning.line) =
      some [0, 1] := by decide +kernel
  obtain ⟨result, warned, hresult, hmem, hline⟩ := exists_warning_of_seen hrun
    (show 1 ∈ _ by simp)
  refine ⟨result, warned, hresult, hmem, ?_⟩
  rw [hline]
  decide +kernel

end Inspection

end ChannelLint
