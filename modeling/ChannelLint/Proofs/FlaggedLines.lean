import ChannelLint.Proofs.CommentTails
import ChannelLint.Proofs.MarkupScanner
import ChannelLint.Proofs.WarningLines

/-!
# Which lines are flagged

The depth machine does not see the comment state before a line; it keeps whether the last line ended
inside a comment. Over a whole file the two agree, and so a markup line is checked only if it starts
outside comments, and not if it ends in one with nothing in front of that
(`IndentState.step_markup_checked`, `Inspection.run_checked`).

`Inspection.indent_warnings_exact` puts together what this means for an inspection: which lines can
be flagged, that they are reported in order and before all else, and that neither the rules nor the
suppressed lines have any part in it.
-/

namespace ChannelLint

open Text

/-! ## Flagged ordinals -/

namespace Indentation

/-- A flagged ordinal is that of a line which does not stand where it should. -/
theorem flagged_of_mem {config : IndentConfig} {first index : Nat}
    {lines : List (List Char × IndentStep)} (h : index ∈ flaggedFrom config first lines) :
    ∃ place line step, index = first + place ∧ lines[place]? = some (line, step) ∧
      isFlagged config line step.checked = true := by
  induction lines generalizing first with
  | nil => cases h
  | cons pair rest ih =>
      have hcases : isFlagged config pair.1 pair.2.checked = true ∧ index = first ∨
          index ∈ flaggedFrom config (first + 1) rest := by
        rw [flaggedFrom] at h
        split at h <;> simp_all
      rcases hcases with ⟨hflagged, rfl⟩ | hmem
      · exact ⟨0, pair.1, pair.2, rfl, rfl, hflagged⟩
      · obtain ⟨place, line, step, hindex, hline, hflagged⟩ := ih hmem
        exact ⟨place + 1, line, step, by omega, hline, hflagged⟩

/-- The flagged ordinals are given in the order of the lines. -/
theorem flagged_from_increasing (config : IndentConfig) (first : Nat)
    (lines : List (List Char × IndentStep)) : (flaggedFrom config first lines).Pairwise (· < ·) := by
  induction lines generalizing first with
  | nil => exact .nil
  | cons pair rest ih =>
      rw [flaggedFrom]
      split
      case isTrue =>
          refine .cons (fun index hindex => ?_) (ih (first + 1))
          obtain ⟨place, _, _, rfl, _⟩ := flagged_of_mem hindex
          omega
      case isFalse => exact ih (first + 1)

end Indentation

/-! ## Checked lines -/

namespace IndentState

open Markup Comment

/-- A markup line is checked only if it starts outside comments and does not end in one with nothing
but blanks in front of it. -/
theorem step_markup_checked (state : IndentState) {before : CommentState} {line body : List Char}
    (hends : Ends line body) (hcomment : state.inComment = (before == .inside))
    (hchecked : (state.step .markup line ((strip .markup before line).1 == .inside)).checked ≠ none) :
    before = .outside ∧
      ¬ ((strip .markup before line).1 = .inside ∧
        isBlankText (strip .markup before line).2 = true) := by
  rw [(strip_visible before hends).1] at hchecked ⊢
  rw [strip_visible_same hends fun text _ h => is_blank_text_append_breaks h text]
  cases before with
  | inside =>
      rw [step_inside state hcomment] at hchecked
      split at hchecked <;> exact absurd rfl hchecked
  | outside =>
      refine ⟨rfl, fun hblank => hchecked ?_⟩
      have houtside : ¬ state.inComment = true := by simp [hcomment]
      by_cases hdata : state.inData = true
      · -- in character data only the tags behind its end count
        simp only [step, stepMarkup, houtside, hdata, Bool.false_eq_true, ↓reduceIte]
        split <;> rfl
      · by_cases hdeclaration : isDeclaration (dropBreaks line) = true
        · simp only [step, stepMarkup, houtside, hdata, hdeclaration, Bool.false_eq_true, ↓reduceIte]
        · rw [step_outside state hcomment (Bool.eq_false_iff.mpr hdata)
            (Bool.eq_false_iff.mpr hdeclaration)]
          exact congrArg IndentStep.checked (if_pos hblank)

end IndentState

namespace Inspection

open Comment Indentation

/-- In a run over markup lines, every line that is checked starts outside comments and does not end in
one with nothing but blanks in front of it. -/
theorem run_checked {lines : List (List Char)} (hends : ∀ line ∈ lines, ∃ body, Ends line body)
    {state : IndentState} {before : CommentState} (hcomment : state.inComment = (before == .inside))
    {index : Nat} {line : StrippedLine} {step : IndentStep}
    (hline : (stripLines .markup before lines)[index]? = some line)
    (hstep : (runStripped .markup state (stripLines .markup before lines))[index]? = some step)
    (hchecked : step.checked ≠ none) :
    lastState before ((stripLines .markup before lines).take index) = .outside ∧
      ¬ (line.after = .inside ∧ isBlankText line.code = true) := by
  -- along the lines: the machine is in a comment exactly where the stripper is
  induction lines generalizing index state before with
  | nil => simp [stripLines] at hline
  | cons first rest ih =>
      obtain ⟨⟨body, hbody⟩, hrest⟩ := List.forall_mem_cons.mp hends
      simp only [stripLines, runStripped, List.map_cons, run] at hline hstep
      cases index with
      | zero =>
          cases hline
          cases hstep
          exact state.step_markup_checked hbody hcomment hchecked
      | succ index =>
          simp only [stripLines, List.take_succ_cons, last_state_cons]
          exact ih hrest (state.step_markup_in_comment first _) hline hstep

/-- No line of a plain file is checked. -/
theorem run_plain_checked {state : IndentState} {lines : List (List Char × Bool)} {step : IndentStep}
    (h : step ∈ run .plain state lines) : step.checked = none := by
  induction lines generalizing state with
  | nil => cases h
  | cons line rest ih =>
      rcases List.mem_cons.mp h with rfl | h
      · rfl
      · exact ih h

/-! ## Whole files -/

/-- The line at the index may be flagged: it is not blank, and in markup it starts outside comments
and has something in front of a comment that it ends in. -/
def MayBeFlagged (path : Path) (text : List Char) (index : Nat) : Prop :=
  ∃ line, (strippedLines path text)[index]? = some line ∧ isBlankText line.raw = false ∧
    (Dialect.ofPath path = .markup →
      finalState ((strippedLines path text).take index) = .outside ∧
        ¬ (line.after = .inside ∧ isBlankText line.code = true))

/-- Every flagged line may be flagged. -/
theorem may_be_flagged_of_mem {config : IndentConfig} {path : Path} {text : List Char}
    {flagged : List Nat} (h : misindented config (.ofPath path) (strippedLines path text) = .ok flagged)
    {index : Nat} (hindex : index ∈ flagged) :
    Dialect.ofPath path ≠ .plain ∧ MayBeFlagged path text index := by
  simp only [misindented] at h
  split at h
  case isTrue => cases h
  case isFalse =>
      cases h
      obtain ⟨place, raw, step, hplace, hpair, hflagged⟩ := flagged_of_mem hindex
      obtain rfl : index = place := by omega
      obtain ⟨hraw, hstep⟩ := List.getElem?_zip_eq_some.mp hpair
      rw [List.getElem?_map] at hraw
      obtain ⟨line, hline, rfl⟩ := Option.map_eq_some_iff.mp hraw
      have hchecked : step.checked ≠ none := fun hnone => by simp [isFlagged, hnone] at hflagged
      have hblank : isBlankText line.raw = false := by
        by_contra hblank
        rw [Bool.not_eq_false] at hblank
        cases hdepth : step.checked <;> simp [isFlagged, hblank, hdepth] at hflagged
      refine ⟨fun hplain => ?_, line, hline, hblank, fun hmarkup => ?_⟩
      · simp only [indentSteps, hplain] at hstep
        exact hchecked (run_plain_checked (List.mem_of_getElem? hstep))
      · simp only [strippedLines, hmarkup] at hline hstep ⊢
        exact run_checked (fun _ => exists_ends_of_mem) rfl hline hstep hchecked

/-- The inspection of a file in which the given lines count as suppressed, whatever stands on them. -/
def inspectSuppressing [Library] (suppressed : List Nat) (inspector : Inspector) (path : Path)
    (text : List Char) : Except LintError Result := do
  let stripped := strippedLines path text
  let indentation ← indentWarnings inspector path stripped
  let found ← Scan.warnings path suppressed (withComments (.ofPath path) stripped).toArray
    (withoutComments stripped).toArray inspector.rules
  pure ⟨indentation ++ found, suppressed.length⟩

/-- If the inspection returns, its warnings are those about the indentation of the flagged lines, and
behind these warnings that match something. -/
def Reports (flagged : List Nat) (path : Path) (outcome : Except LintError Result) : Prop :=
  ∀ result, outcome = .ok result → ∃ others,
    result.warnings =
        flagged.map (fun (line : Nat) => ⟨indentationRule, path, line, none⟩) ++ others ∧
      ∀ one ∈ others, one.found ≠ none

/-- An inspection reports what the check of the indentation flags. -/
theorem inspect_suppressing_reports [Library] {config : IndentConfig} {path : Path}
    {text : List Char}
    {flagged : List Nat} (h : misindented config (.ofPath path) (strippedLines path text) = .ok flagged)
    (rules : List Rule) (suppressed : List Nat) :
    Reports flagged path (inspectSuppressing suppressed ⟨rules, some config⟩ path text) := by
  intro result hresult
  obtain ⟨indentation, hindentation, hresult⟩ := bind_eq_ok.mp hresult
  obtain ⟨others, hothers, heq⟩ := bind_eq_ok.mp hresult
  cases heq
  refine ⟨others, ?_, fun one hone => ?_⟩
  · simp only [indentWarnings, h] at hindentation
    cases hindentation
    rfl
  · obtain ⟨rule, _, _, _, _, hit, _, _, rfl⟩ := Scan.mem_warnings hothers hone
    exact nofun

/-- Either no inspection of the file returns with this indentation, and all fail with the same error,
or there are lines, in increasing order, that are reported by every inspection which returns,
whatever its rules and whichever lines are suppressed. Each of them may be flagged, and a plain file
has none. -/
theorem indent_warnings_exact [Library] (config : IndentConfig) (path : Path) (text : List Char) :
    (∃ error, ∀ rules, inspectText ⟨rules, some config⟩ path text = .error error ∧
      ∀ suppressed, inspectSuppressing suppressed ⟨rules, some config⟩ path text = .error error) ∨
    ∃ flagged : List Nat, flagged.Pairwise (· < ·) ∧
      (∀ index ∈ flagged, MayBeFlagged path text index) ∧
      (Dialect.ofPath path = .plain → flagged = []) ∧
      ∀ rules, Reports flagged path (inspectText ⟨rules, some config⟩ path text) ∧
        ∀ suppressed,
          Reports flagged path (inspectSuppressing suppressed ⟨rules, some config⟩ path text) := by
  have hown : ∀ rules, inspectText ⟨rules, some config⟩ path text =
      inspectSuppressing (Suppression.lines (splitLines text)) ⟨rules, some config⟩ path text :=
    fun _ => rfl
  cases hflagged : misindented config (.ofPath path) (strippedLines path text) with
  | error error =>
      have herror : ∀ rules suppressed,
          inspectSuppressing suppressed ⟨rules, some config⟩ path text = .error error := by
        intro rules suppressed
        simp only [inspectSuppressing, indentWarnings, hflagged]
        rfl
      exact .inl ⟨error, fun rules => ⟨(hown rules).trans (herror rules _), herror rules⟩⟩
  | ok flagged =>
      refine .inr ⟨flagged, ?_, fun index hindex => (may_be_flagged_of_mem hflagged hindex).2,
        fun hplain => ?_, fun rules => ?_⟩
      · rw [misindented_eq] at hflagged
        split at hflagged
        · cases hflagged
        · cases hflagged
          exact flagged_from_increasing config 0 _
      · refine List.eq_nil_iff_forall_not_mem.mpr fun index hindex => ?_
        exact (may_be_flagged_of_mem hflagged hindex).1 hplain
      · have hreports := inspect_suppressing_reports hflagged rules
        exact ⟨hown rules ▸ hreports _, hreports⟩

/-- A line in front of a comment is flagged, but none of the lines of the comment, nor a blank line
behind it. -/
example : misindented ⟨.space, 4⟩ .markup (strippedLines (.ofString "a.xml")
    "<a>\n<b/> <!-- x\ny\nz -->\n  \n <!-- u\n-->\n</a>\n".toList) = .ok [1] := by
  decide +kernel

end Inspection

end ChannelLint
