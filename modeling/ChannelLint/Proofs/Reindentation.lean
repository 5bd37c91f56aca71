import ChannelLint.Proofs.LeadingBlanks
import ChannelLint.Proofs.LineMapping
import Mathlib.Data.List.DropRight

/-!
# Repairing indentation in one pass

The leading spaces and tabs of a line may be exchanged without any effect on the lines after it:
comment states and depths stay what they were. `repair` gives every flagged line the indentation at
which it should stand. The main theorem, `repair_indentation`, says that nothing is flagged in the
repaired text and that the depth machine takes the same steps on it.
-/

namespace ChannelLint

open Text

/-! ## Lines without their indentation -/

namespace Indentation

/-- The line without its leading spaces and tabs. -/
def content (line : List Char) : List Char :=
  line.dropWhile isIndent

/-- A line is its leading spaces and tabs and its content. -/
theorem leading_append_content (line : List Char) : leading line ++ content line = line :=
  List.takeWhile_append_dropWhile

/-- Spaces and tabs in front of a line do not belong to its content. -/
theorem content_append {lead : List Char} (hlead : ∀ c ∈ lead, isIndent c = true)
    (line : List Char) : content (lead ++ line) = content line := by
  rw [content, List.dropWhile_append_of_pos hlead, content]

/-- A content is its own content. -/
theorem content_content (line : List Char) : content (content line) = content line :=
  List.dropWhile_idempotent isIndent line

/-- A content has no leading spaces and tabs. -/
theorem leading_content (line : List Char) : leading (content line) = [] := by
  have hsplit := leading_append_content (content line)
  rw [content_content] at hsplit
  exact List.append_left_eq_self.mp hsplit

/-- Spaces and tabs in front of a content are the leading ones. -/
theorem leading_append_self {lead : List Char} (hlead : ∀ c ∈ lead, isIndent c = true)
    (line : List Char) : leading (lead ++ content line) = lead := by
  have hrest : (content line).takeWhile isIndent = [] := leading_content line
  show (lead ++ content line).takeWhile isIndent = lead
  rw [List.takeWhile_append_of_pos hlead, hrest, List.append_nil]

/-- The content of a line keeps its end. -/
theorem content_append_terminator {body terminator : List Char} (h : IsTerminator terminator) :
    content (body ++ terminator) = content body ++ terminator := by
  rcases h with rfl | rfl
  · simp
  · induction body with
    | nil => rfl
    | cons c body ih =>
        simp only [content, List.cons_append, List.dropWhile_cons] at ih ⊢
        split
        · exact ih
        · rfl

/-- Whatever does not see a space or tab in front of a line reads lines with one content alike. -/
theorem eq_of_content {α : Type} (read : List Char → α)
    (h : ∀ c, isIndent c = true → ∀ line, read (c :: line) = read line) {line other : List Char}
    (hcontent : content line = content other) : read line = read other := by
  have hread : ∀ line, read (content line) = read line := by
    intro line
    induction line with
    | nil => rfl
    | cons c line ih =>
        rw [content, List.dropWhile_cons]
        split
        case isTrue hc => rw [h c hc]; exact ih
        case isFalse => rfl
  rw [← hread line, hcontent, hread]

end Indentation

/-! ## Changed indentation -/

namespace Indentation

/-- The second line is the first, or has other leading spaces and tabs if that is not blank. -/
def Reindents (line changed : List Char) : Prop :=
  changed = line ∨ (isBlankText line = false ∧
    ∃ lead, (∀ c ∈ lead, isIndent c = true) ∧ changed = lead ++ content line)

/-- A reindented line has the same content. -/
theorem Reindents.content_eq {line changed : List Char} (h : Reindents line changed) :
    content line = content changed := by
  rcases h with rfl | ⟨_, lead, hlead, rfl⟩
  · rfl
  · rw [content_append hlead, content_content]

/-- A reindented line can take the place of the line. -/
theorem Reindents.stands_in {line changed : List Char} (h : Reindents line changed) :
    StandsIn line changed := by
  rcases h with rfl | ⟨hblank, lead, hlead, rfl⟩
  · exact .refl _
  · constructor
    · rintro body terminator hbody hterminator rfl
      refine ⟨lead ++ content body, ?_, ?_⟩
      · rw [List.mem_append]
        rintro (hmem | hmem)
        · cases hlead _ hmem
        · exact hbody ((List.dropWhile_suffix isIndent).subset hmem)
      · rw [content_append_terminator hterminator, List.append_assoc]
    · -- a line that is not blank has a content
      intro _ hnil
      rw [← eq_of_content isBlankText (fun _ hc => is_blank_text_cons hc) (content_content line),
        (List.append_eq_nil_iff.mp hnil).2] at hblank
      cases hblank

end Indentation

namespace Inspection

open Indentation Comment

/-- Lines with the same contents leave the same comment states, and the depth machine takes the same
steps on them. -/
theorem same_content_run {dialect : Dialect} {lines changed : List (List Char)}
    (h : List.Forall₂ (fun line other => content line = content other) lines changed)
    (state : CommentState) (depths : IndentState) :
    (stripLines dialect state changed).map StrippedLine.after =
        (stripLines dialect state lines).map StrippedLine.after ∧
      Indentation.run dialect depths ((stripLines dialect state changed).map fun line =>
          (line.raw, line.after == .inside)) =
        Indentation.run dialect depths ((stripLines dialect state lines).map fun line =>
          (line.raw, line.after == .inside)) := by
  -- both runs are in the same comment state and at the same depths before each line
  induction h generalizing state depths with
  | nil => exact ⟨rfl, rfl⟩
  | @cons line other lines changed hcontent hrest ih =>
      have hstate : (strip dialect state other).1 = (strip dialect state line).1 :=
        eq_of_content (fun text => (strip dialect state text).1)
          (fun _ hc => strip_state_cons hc dialect state) hcontent.symm
      have hstep : ∀ inComment, depths.step dialect other inComment =
          depths.step dialect line inComment := fun inComment =>
        eq_of_content (fun text => depths.step dialect text inComment)
          (fun _ hc text => IndentState.step_cons hc dialect depths text inComment) hcontent.symm
      obtain ⟨hafter, hrun⟩ := ih (strip dialect state line).1
        (depths.step dialect line ((strip dialect state line).1 == .inside)).next
      simp [stripLines, Indentation.run, hstate, hstep, hafter, hrun]

/-- Reindenting lines of a text changes no comment state and no step of the depth machine. -/
theorem reindents_run {text : List Char} {changed : List (List Char)} (path : Path)
    (h : List.Forall₂ Reindents (splitLines text) changed) :
    (strippedLines path changed.flatten).map StrippedLine.after =
        (strippedLines path text).map StrippedLine.after ∧
      indentSteps (.ofPath path) (strippedLines path changed.flatten) =
        indentSteps (.ofPath path) (strippedLines path text) := by
  rw [strippedLines, split_lines_of_stands_in (h.imp fun _ _ => Reindents.stands_in)]
  exact same_content_run (h.imp fun _ _ => Reindents.content_eq) .outside {}

end Inspection

/-! ## Repair -/

namespace Indentation

/-- The line at the indentation at which it should stand, if it is flagged. -/
def repairLine (config : IndentConfig) (line : List Char) : Option Nat → List Char
  | some depth =>
      if isFlagged config line (some depth) then
        List.replicate (expectedLength config depth) config.character.char ++ content line
      else line
  | none => line

/-- The indentation at a depth is made of spaces or tabs. -/
theorem is_indent_of_mem_replicate {config : IndentConfig} {count : Nat} {c : Char}
    (h : c ∈ List.replicate count config.character.char) : isIndent c = true := by
  rw [(List.mem_replicate.mp h).2]
  cases config.character <;> rfl

/-- A repaired line is reindented. -/
theorem repair_line_reindents (config : IndentConfig) (line : List Char) (checked : Option Nat) :
    Reindents line (repairLine config line checked) := by
  cases checked with
  | none => exact .inl rfl
  | some depth =>
      rw [repairLine]
      split
      case isTrue hflagged =>
          have hblank : isBlankText line = false := by
            simpa using (Bool.and_eq_true_iff.mp hflagged).1
          exact .inr ⟨hblank, _, fun _ => is_indent_of_mem_replicate, rfl⟩
      case isFalse => exact .inl rfl

/-- A repaired line is not flagged. -/
theorem is_flagged_repair_line (config : IndentConfig) (line : List Char) (checked : Option Nat) :
    isFlagged config (repairLine config line checked) checked = false := by
  cases checked with
  | none => rfl
  | some depth =>
      rw [repairLine]
      split
      case isTrue =>
          have hleading : leading (List.replicate (expectedLength config depth)
              config.character.char ++ content line) =
                List.replicate (expectedLength config depth) config.character.char :=
            leading_append_self (fun _ => is_indent_of_mem_replicate) line
          simp [isFlagged, agrees, hleading]
      case isFalse hflagged => simpa using hflagged

/-- A repaired line should stand at the same indentation. -/
theorem is_too_long_repair_line (config : IndentConfig) (line : List Char) (checked : Option Nat) :
    isTooLong config (repairLine config line checked) checked = isTooLong config line checked := by
  have hblank : isBlankText (repairLine config line checked) = isBlankText line :=
    eq_of_content isBlankText (fun _ hc => is_blank_text_cons hc)
      (repair_line_reindents config line checked).content_eq.symm
  cases checked <;> simp [isTooLong, hblank]

/-- Among lines none of which is flagged, no ordinal is. -/
theorem flagged_from_eq_nil {config : IndentConfig} {lines : List (List Char × IndentStep)}
    (h : ∀ line ∈ lines, isFlagged config line.1 line.2.checked = false) (first : Nat) :
    flaggedFrom config first lines = [] := by
  induction lines generalizing first with
  | nil => rfl
  | cons line lines ih =>
      rw [List.forall_mem_cons] at h
      simp [flaggedFrom, h.1, ih h.2]

end Indentation

namespace Inspection

open Indentation Comment

/-- The lines of a text, each with its step of the depth machine. -/
def lineSteps (path : Path) (text : List Char) : List (List Char × IndentStep) :=
  (splitLines text).zip (indentSteps (.ofPath path) (strippedLines path text))

/-- The text with every flagged line at the indentation at which it should stand. -/
def repair (config : IndentConfig) (path : Path) (text : List Char) : List Char :=
  ((lineSteps path text).map fun (line, step) => repairLine config line step.checked).flatten

/-- Every line has its step. -/
theorem line_steps_length (path : Path) (text : List Char) :
    (indentSteps (.ofPath path) (strippedLines path text)).length = (splitLines text).length := by
  rw [indentSteps, run_length, List.length_map, stripped_lines_length]

/-- The check is a search through the lines and their steps. -/
theorem misindented_eq (config : IndentConfig) (path : Path) (text : List Char) :
    misindented config (.ofPath path) (strippedLines path text) =
      if (lineSteps path text).any fun (line, step) => isTooLong config line step.checked then
        .error .indentTooLong
      else .ok (flaggedFrom config 0 (lineSteps path text)) := by
  rw [lineSteps, ← strip_lines_raw (.ofPath path) .outside (splitLines text)]
  rfl

/-- The lines of the repaired text are reindented lines of the text. -/
theorem repair_reindents (config : IndentConfig) (path : Path) (text : List Char) :
    List.Forall₂ Reindents (splitLines text)
      ((lineSteps path text).map fun (line, step) => repairLine config line step.checked) := by
  have hlines : (lineSteps path text).map Prod.fst = splitLines text :=
    List.map_fst_zip (Nat.le_of_eq (line_steps_length path text).symm)
  rw [← hlines, List.forall₂_map_left_iff, List.forall₂_map_right_iff, List.forall₂_same]
  exact fun pair _ => repair_line_reindents config pair.1 pair.2.checked

/-- The lines of the repaired text, with the steps of the lines they take the place of. -/
theorem line_steps_repair (config : IndentConfig) (path : Path) (text : List Char) :
    lineSteps path (repair config path text) = (lineSteps path text).map fun (line, step) =>
      (repairLine config line step.checked, step) := by
  have hreindents := repair_reindents config path text
  have hsteps : (lineSteps path text).map Prod.snd =
      indentSteps (.ofPath path) (strippedLines path text) :=
    List.map_snd_zip (Nat.le_of_eq (line_steps_length path text))
  rw [lineSteps, repair, (reindents_run path hreindents).2, ← hsteps,
    split_lines_of_stands_in (hreindents.imp fun _ _ => Reindents.stands_in)]
  exact List.zip_map'

/-- Comment states and steps of the depth machine do not depend on the leading spaces and tabs of
lines that are not blank. So in the repaired text nothing is flagged, if anything can be checked at
all, and the machine takes the steps that it takes on the text. -/
theorem repair_indentation (config : IndentConfig) (path : Path) (text : List Char) :
    (∀ changed, List.Forall₂ Reindents (splitLines text) changed →
      (strippedLines path changed.flatten).map StrippedLine.after =
          (strippedLines path text).map StrippedLine.after ∧
        indentSteps (.ofPath path) (strippedLines path changed.flatten) =
          indentSteps (.ofPath path) (strippedLines path text)) ∧
      misindented config (.ofPath path) (strippedLines path (repair config path text)) =
        (misindented config (.ofPath path) (strippedLines path text)).map (fun _ => []) ∧
      indentSteps (.ofPath path) (strippedLines path (repair config path text)) =
        indentSteps (.ofPath path) (strippedLines path text) := by
  have hflagged : flaggedFrom config 0 (lineSteps path (repair config path text)) = [] := by
    rw [line_steps_repair]
    refine flagged_from_eq_nil (fun pair hpair => ?_) 0
    obtain ⟨old, _, rfl⟩ := List.mem_map.mp hpair
    exact is_flagged_repair_line config old.1 old.2.checked
  have hlong : ((lineSteps path (repair config path text)).any fun (line, step) =>
      isTooLong config line step.checked) =
        (lineSteps path text).any fun (line, step) => isTooLong config line step.checked := by
    rw [line_steps_repair, List.any_map]
    simp only [Function.comp_def, is_too_long_repair_line]
  refine ⟨fun changed h => reindents_run path h, ?_,
    (reindents_run path (repair_reindents config path text)).2⟩
  rw [misindented_eq, misindented_eq, hflagged, hlong]
  split <;> rfl

/-- An element that stands too far left and an end tag that stands too far right: both are flagged,
and the repaired text is clean. With a tab in front of the element instead, the steps are the same. -/
theorem repair_indentation_markup :
    repair ⟨.space, 2⟩ (.ofString "a.xml") "<a>\n<b/>\n  </a>\n".toList =
        "<a>\n  <b/>\n</a>\n".toList ∧
      misindented ⟨.space, 2⟩ (.ofPath (.ofString "a.xml"))
        (strippedLines (.ofString "a.xml") "<a>\n<b/>\n  </a>\n".toList) = .ok [1, 2] ∧
      misindented ⟨.space, 2⟩ (.ofPath (.ofString "a.xml")) (strippedLines (.ofString "a.xml")
        (repair ⟨.space, 2⟩ (.ofString "a.xml") "<a>\n<b/>\n  </a>\n".toList)) = .ok [] ∧
      indentSteps (.ofPath (.ofString "a.xml")) (strippedLines (.ofString "a.xml")
          ["<a>\n".toList, "\t<b/>\n".toList, "  </a>\n".toList].flatten) =
        indentSteps (.ofPath (.ofString "a.xml"))
          (strippedLines (.ofString "a.xml") "<a>\n<b/>\n  </a>\n".toList) := by
  obtain ⟨hsame, hclean, _⟩ := repair_indentation ⟨.space, 2⟩ (.ofString "a.xml")
    "<a>\n<b/>\n  </a>\n".toList
  have hflagged : misindented ⟨.space, 2⟩ (.ofPath (.ofString "a.xml"))
      (strippedLines (.ofString "a.xml") "<a>\n<b/>\n  </a>\n".toList) = .ok [1, 2] := by
    decide +kernel
  have hlines : splitLines "<a>\n<b/>\n  </a>\n".toList =
      ["<a>\n".toList, "<b/>\n".toList, "  </a>\n".toList] := by decide +kernel
  refine ⟨by decide +kernel, hflagged, by rw [hclean, hflagged]; rfl, (hsame _ ?_).2⟩
  rw [hlines]
  exact .cons (.inl rfl) (.cons (.inr ⟨by decide +kernel, ['\t'], by simp [isIndent], rfl⟩)
    (.cons (.inl rfl) .nil))

end Inspection

end ChannelLint
