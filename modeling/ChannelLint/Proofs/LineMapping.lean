import ChannelLint.Inspection
import ChannelLint.Proofs.Scanning
import ChannelLint.Proofs.Stripping

/-!
# Warnings name the line on which they start

A rule looks at one text, put together from what stripping leaves of the lines, and a warning names
a line of the file. `inspect_text_warning_line` says that the two fit: a match that starts within
the text starts inside what is left of the line that its warning names, and of no other line.
-/

namespace ChannelLint

/-! ## Suppressed lines -/

/-- An ordinal is suppressed if the line at it holds the directive. -/
theorem Suppression.mem_lines_from {first index : Nat} {all : List (List Char)} :
    index ∈ linesFrom first all ↔
      ∃ place line, index = first + place ∧ all[place]? = some line ∧ isDirective line = true := by
  induction all generalizing first with
  | nil => simp [linesFrom]
  | cons line rest ih =>
      -- a place is that of the first line, or one further on than a place of the rest
      rw [← Nat.or_exists_add_one]
      simp only [List.getElem?_cons_zero, List.getElem?_cons_succ, Nat.add_zero]
      have hrest : index ∈ linesFrom (first + 1) rest ↔
          ∃ place later, index = first + (place + 1) ∧ rest[place]? = some later ∧
            isDirective later = true := by
        simp only [ih, Nat.add_assoc, Nat.add_comm 1]
      rw [← hrest, linesFrom]
      split <;> simp_all

/-- The suppressed ordinals are those of the lines that hold the directive. -/
theorem Suppression.mem_lines {index : Nat} {all : List (List Char)} :
    index ∈ lines all ↔ ∃ line, all[index]? = some line ∧ isDirective line = true := by
  simp [lines, mem_lines_from]

namespace Inspection

/-! ## What an inspection returns -/

/-- The lines of a file, stripped. -/
def strippedLines (path : Path) (text : List Char) : List Comment.StrippedLine :=
  Comment.stripLines (.ofPath path) .outside (Text.splitLines text)

/-- Stripping keeps the number of lines. -/
theorem stripped_lines_length (path : Path) (text : List Char) :
    (strippedLines path text).length = (Text.splitLines text).length := by
  rw [← List.length_map Comment.StrippedLine.raw, strippedLines, Comment.strip_lines_raw]

/-- The text of a file that a rule looks at. -/
def scannedText (path : Path) (text : List Char) (rule : Rule) : List Char :=
  if rule.includeComments then Comment.withComments (.ofPath path) (strippedLines path text)
  else Comment.withoutComments (strippedLines path text)

/-- What a rule sees of each line of a file. -/
def scannedLines (path : Path) (text : List Char) (rule : Rule) : List (List Char) :=
  (strippedLines path text).map (Comment.seen (.ofPath path) rule.includeComments)

/-- The text that a rule looks at is what it sees of the lines. -/
theorem scanned_lines_flatten (path : Path) (text : List Char) (rule : Rule) :
    (scannedLines path text rule).flatten = scannedText path text rule :=
  Comment.seen_flatten _ _ _

/-- A rule sees something of every line of the file. -/
theorem scanned_lines_length (path : Path) (text : List Char) (rule : Rule) :
    (scannedLines path text rule).length = (Text.splitLines text).length := by
  rw [scannedLines, List.length_map, stripped_lines_length]

/-- The warnings of the rules in a file. -/
def patternWarnings [Library] (inspector : Inspector) (path : Path) (text : List Char) :
    Except LintError (List Warning) :=
  Scan.warnings path (Suppression.lines (Text.splitLines text))
    (Comment.withComments (.ofPath path) (strippedLines path text)).toArray
    (Comment.withoutComments (strippedLines path text)).toArray inspector.rules

/-- The warnings of an inspection: those about indentation, then those of the rules. -/
theorem inspect_text_warnings [Library] (inspector : Inspector) (path : Path) (text : List Char) :
    (inspectText inspector path text).map Result.warnings =
      (do
        let indentation ← indentWarnings inspector path (strippedLines path text)
        let found ← patternWarnings inspector path text
        pure (indentation ++ found)) := by
  show Except.map Result.warnings (do
      let indentation ← indentWarnings inspector path (strippedLines path text)
      let found ← patternWarnings inspector path text
      pure ⟨indentation ++ found, (Suppression.lines (Text.splitLines text)).length⟩) = _
  cases indentWarnings inspector path (strippedLines path text) with
  | error error => rfl
  | ok indentation => cases patternWarnings inspector path text <;> rfl

/-- An inspection that returns has found all warnings. -/
theorem inspect_text_ok [Library] {inspector : Inspector} {path : Path} {text : List Char}
    {result : Result} (h : inspectText inspector path text = .ok result) :
    ∃ indentation found,
      indentWarnings inspector path (strippedLines path text) = .ok indentation ∧
      patternWarnings inspector path text = .ok found ∧ result.warnings = indentation ++ found := by
  have hwarnings := inspect_text_warnings inspector path text
  rw [h] at hwarnings
  obtain ⟨indentation, hindentation, hrest⟩ := bind_eq_ok.mp hwarnings.symm
  obtain ⟨found, hfound, heq⟩ := bind_eq_ok.mp hrest
  exact ⟨indentation, found, hindentation, hfound, (Except.ok.inj heq).symm⟩

/-- A warning about indentation matches nothing. -/
theorem found_of_mem_indent_warnings {inspector : Inspector} {path : Path}
    {lines : List Comment.StrippedLine} {warned : List Warning} {one : Warning}
    (h : indentWarnings inspector path lines = .ok warned) (hmem : one ∈ warned) :
    one.found = none := by
  unfold indentWarnings at h
  split at h
  case h_1 =>
      cases h
      simp at hmem
  case h_2 =>
      obtain ⟨flagged, _, heq⟩ := bind_eq_ok.mp h
      cases heq
      obtain ⟨line, _, rfl⟩ := List.mem_map.mp hmem
      rfl

/-- A warning that matches something comes from a hit of a rule in the text that the rule looks
at. -/
theorem warns_of_found [Library] {inspector : Inspector} {path : Path} {text : List Char}
    {result : Result}
    {warned : Warning} {found : MatchedText} (h : inspectText inspector path text = .ok result)
    (hmem : warned ∈ result.warnings) (hfound : warned.found = some found) :
    ∃ rule ∈ inspector.rules, Scan.WarnsOf path (Suppression.lines (Text.splitLines text))
      (scannedText path text rule).toArray rule warned := by
  obtain ⟨indentation, others, hindentation, hothers, heq⟩ := inspect_text_ok h
  rw [heq] at hmem
  rcases List.mem_append.mp hmem with hmem | hmem
  · have hnone := found_of_mem_indent_warnings hindentation hmem
    rw [hfound] at hnone
    cases hnone
  · obtain ⟨rule, hrule, hwarns⟩ := Scan.mem_warnings hothers hmem
    refine ⟨rule, hrule, ?_⟩
    unfold scannedText
    cases hinclude : rule.includeComments <;> simpa [hinclude] using hwarns

/-! ## Lines of warnings -/

/-- A match that starts within the text that its rule looks at starts inside what is left of one
line. Its warning names this line, which is a line of the file without the directive. -/
theorem inspect_text_warning_line [Library] {inspector : Inspector} {path : Path} {text : List Char}
    {result : Result} {warned : Warning} {found : MatchedText}
    (h : inspectText inspector path text = .ok result) (hmem : warned ∈ result.warnings)
    (hfound : warned.found = some found)
    (hstart : found.start < (scannedText path text warned.rule).length) :
    ∃ index : Nat, warned.line = index ∧
      (∀ other, Text.offset (scannedLines path text warned.rule) other ≤ found.start ∧
        found.start < Text.offset (scannedLines path text warned.rule) (other + 1) ↔
          other = index) ∧
      ∃ line, (Text.splitLines text)[index]? = some line ∧
        Suppression.isDirective line = false := by
  obtain ⟨rule, _, _, regex, _, hit, hhit, hsuppressed, rfl⟩ := warns_of_found h hmem hfound
  cases hfound
  simp only [Scan.warning, Scan.matchedText] at hstart ⊢
  -- what the rule sees stands in a row, so the line feeds before the match count the lines
  have hrows : Text.Rows (scannedLines path text rule) := Comment.seen_rows _ _ _ _
  have hline : hit.line = Text.lineFeeds ((scannedText path text rule).take hit.found.start) := by
    rw [Scan.hits_line (regex.search_span _ _) hhit, Scan.feeds_between_zero]
  rw [← scanned_lines_flatten] at hstart hline
  obtain ⟨hlt, hinside⟩ := hrows.offset_line_feeds hstart
  rw [← hline] at hlt hinside
  refine ⟨hit.line, rfl, fun other => ⟨fun hother => Text.offset_unique hother hinside, ?_⟩, ?_⟩
  · rintro rfl
    exact hinside
  · rw [scanned_lines_length] at hlt
    refine ⟨(Text.splitLines text)[hit.line], List.getElem?_eq_getElem hlt, ?_⟩
    by_contra hdirective
    exact hsuppressed (Suppression.mem_lines.mpr
      ⟨_, List.getElem?_eq_getElem hlt, by simpa using hdirective⟩)

/-- In a script whose first line is a comment, a match on the second line: of the first line only
its end is left, so that the match starts at place 3. -/
theorem inspect_text_warning_line_after_comment :
    ∃ result warned found,
      inspectText ⟨[{ pattern := "stop" }], none⟩ (.ofString "a.brs") "'stop\nx stop\n".toList =
        .ok result ∧ warned ∈ result.warnings ∧ warned.found = some found ∧ found.start = 3 ∧
      ∃ index : Nat, warned.line = index ∧
        (∀ other, Text.offset (scannedLines (.ofString "a.brs") "'stop\nx stop\n".toList warned.rule)
            other ≤ found.start ∧
          found.start < Text.offset
            (scannedLines (.ofString "a.brs") "'stop\nx stop\n".toList warned.rule) (other + 1) ↔
          other = index) ∧
        ∃ line, (Text.splitLines "'stop\nx stop\n".toList)[index]? = some line ∧
          Suppression.isDirective line = false := by
  have hrun : ((inspectText ⟨[{ pattern := "stop" }], none⟩ (.ofString "a.brs")
      "'stop\nx stop\n".toList).toOption.map fun result => result.warnings.map fun warned =>
        (warned.rule.includeComments, warned.found)) =
      some [(false, some ⟨"stop", [], 3, 7⟩)] := by decide +kernel
  cases hresult : inspectText ⟨[{ pattern := "stop" }], none⟩ (.ofString "a.brs")
      "'stop\nx stop\n".toList with
  | error error =>
      rw [hresult] at hrun
      cases hrun
  | ok result =>
      rw [hresult] at hrun
      obtain ⟨warned, hwarned, hfields⟩ := List.map_eq_singleton_iff.mp (Option.some.inj hrun)
      obtain ⟨hinclude, hfound⟩ := Prod.mk.inj hfields
      have hmem : warned ∈ result.warnings := by simp [hwarned]
      refine ⟨result, warned, _, rfl, hmem, hfound, rfl, ?_⟩
      refine inspect_text_warning_line hresult hmem hfound ?_
      rw [scannedText, hinclude]
      decide +kernel

end Inspection

end ChannelLint
