import ChannelLint.Inspection
import Mathlib.Data.List.Forall2

/-!
# What the indentation check depends on

The depth machine reads a line only through its step, so lines with equal steps give equal runs
(`Indentation.run_congr`). On top of a run, the check asks of each line whether it is flagged and
whether its indentation is too long; lines with equal answers give equal checks
(`Inspection.misindented_congr`).
-/

namespace ChannelLint

open Comment (StrippedLine)

namespace Indentation

/-- Lines that the depth machine reads alike in every state give the same run. -/
theorem run_congr {dialect : Dialect} {lines changed : List (List Char × Bool)}
    (h : List.Forall₂ (fun line other => ∀ state : IndentState,
      state.step dialect line.1 line.2 = state.step dialect other.1 other.2) lines changed)
    (state : IndentState) : run dialect state lines = run dialect state changed := by
  induction h generalizing state with
  | nil => rfl
  | cons hstep hrest ih => simp only [run, hstep state, ih]

/-- A run has a step for each line. -/
theorem run_length (dialect : Dialect) (state : IndentState) (lines : List (List Char × Bool)) :
    (run dialect state lines).length = lines.length := by
  induction lines generalizing state with
  | nil => rfl
  | cons line rest ih => simp [run, ih]

/-- What follows a text that is not blank does not belong to its leading spaces and tabs. -/
theorem leading_append {body : List Char} (h : Text.isBlankText body = false) (rest : List Char) :
    leading (body ++ rest) = leading body := by
  induction body with
  | nil => simp [Text.isBlankText] at h
  | cons c body ih =>
      simp only [leading, List.cons_append, List.takeWhile_cons]
      split
      case isTrue hc =>
          have hblank : Text.isBlank c = true := by
            rcases Bool.or_eq_true_iff.mp hc with hc | hc <;> simp_all [Text.isBlank]
          have hbody : Text.isBlankText body = false := by
            simpa [Text.isBlankText, hblank] using h
          exact congrArg (c :: ·) (ih hbody)
      case isFalse => rfl

/-- The check of the two lines gives the same answers at every depth. -/
def ChecksAlike (config : IndentConfig) (line other : List Char) : Prop :=
  ∀ checked, isFlagged config line checked = isFlagged config other checked ∧
    isTooLong config line checked = isTooLong config other checked

/-- The check looks at a line only for whether it is blank and for its leading spaces and tabs. -/
theorem checks_alike_of_leading {config : IndentConfig} {line other : List Char}
    (hblank : Text.isBlankText line = Text.isBlankText other)
    (hleading : leading line = leading other) : ChecksAlike config line other := by
  intro checked
  cases checked <;> simp [isFlagged, isTooLong, agrees, hblank, hleading]

section Zip

variable {config : IndentConfig} {lines changed : List (List Char)}
  (h : List.Forall₂ (ChecksAlike config) lines changed) (steps : List IndentStep)
include h

/-- Among lines that are checked alike, the same are too long. -/
theorem any_too_long_congr :
    ((lines.zip steps).any fun (line, step) => isTooLong config line step.checked) =
      (changed.zip steps).any fun (line, step) => isTooLong config line step.checked := by
  induction h generalizing steps with
  | nil => rfl
  | cons hline hrest ih =>
      cases steps with
      | nil => rfl
      | cons step steps => simp only [List.zip_cons_cons, List.any_cons, (hline step.checked).2, ih]

/-- Among lines that are checked alike, the same are flagged. -/
theorem flagged_from_congr (first : Nat) :
    flaggedFrom config first (lines.zip steps) = flaggedFrom config first (changed.zip steps) := by
  induction h generalizing steps first with
  | nil => rfl
  | cons hline hrest ih =>
      cases steps with
      | nil => rfl
      | cons step steps => simp only [List.zip_cons_cons, flaggedFrom, (hline step.checked).1, ih]

end Zip

end Indentation

namespace Inspection

open Indentation

/-- Lines of which the check gives the same answers, with the same steps, are checked alike. -/
theorem misindented_congr {config : IndentConfig} {dialect : Dialect}
    {lines changed : List StrippedLine}
    (hlines : List.Forall₂ (ChecksAlike config) (lines.map StrippedLine.raw)
      (changed.map StrippedLine.raw))
    (hsteps : indentSteps dialect lines = indentSteps dialect changed) :
    misindented config dialect lines = misindented config dialect changed := by
  simp only [misindented, hsteps, any_too_long_congr hlines, flagged_from_congr hlines]

end Inspection

end ChannelLint
