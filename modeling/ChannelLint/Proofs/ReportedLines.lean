import ChannelLint.Proofs.LinePieces
import ChannelLint.Report.Terminal

/-!
# The lines of a text and the lines of a report

Warnings name lines by their ordinals among the lines of a text, which keep their terminators. A
terminal report takes what it shows of a line from the pieces between line feeds. `Text.AreLines`
says what the lines of a text are without saying how it is cut, and `Report.lines_determined`, the
main theorem, that there are no other such lines than those that cutting gives, and that the report
shows the same line under an ordinal, without its terminator.
-/

namespace ChannelLint

namespace Text

/-- The texts are lines that make up a text. -/
structure AreLines (text : List Char) (lines : List (List Char)) : Prop where
  /-- One after the other they are the text. -/
  flatten : lines.flatten = text
  /-- None of them is empty. -/
  ne_nil : ∀ line ∈ lines, line ≠ []
  /-- A line feed is the last character of its line. -/
  feed_last : ∀ line ∈ lines, '\n' ∉ line.dropLast
  /-- All but the last end with a line feed. -/
  ended : ∀ line ∈ lines.dropLast, line.getLast? = some '\n'

/-- In a row of texts a line feed is the last character of its text, and all but the last end with
one. -/
theorem rows_iff {lines : List (List Char)} :
    Rows lines ↔ (∀ line ∈ lines, '\n' ∉ line.dropLast) ∧
      ∀ line ∈ lines.dropLast, line.getLast? = some '\n' := by
  constructor
  · intro h
    induction h with
    | nil => exact ⟨nofun, nofun⟩
    | @last body hbody =>
        refine ⟨?_, nofun⟩
        rintro line hline hfeed
        rw [List.mem_singleton.mp hline] at hfeed
        exact hbody (List.dropLast_subset _ hfeed)
    | @cons body rest hbody hrest ih =>
        obtain ⟨hlast, hended⟩ := ih
        refine ⟨List.forall_mem_cons.mpr ⟨by simpa using hbody, hlast⟩, ?_⟩
        cases rest with
        | nil => exact nofun
        | cons next others =>
            rw [List.dropLast_cons_cons]
            exact List.forall_mem_cons.mpr ⟨by simp, hended⟩
  · rintro ⟨hlast, hended⟩
    induction lines with
    | nil => exact .nil
    | cons line rest ih =>
        obtain ⟨hbody, hlast⟩ := List.forall_mem_cons.mp hlast
        cases rest with
        | nil =>
            -- the last text has a line feed at its end or nowhere
            by_cases hfeed : line.getLast? = some '\n'
            · rw [← List.dropLast_append_getLast? _ hfeed]
              exact .cons hbody .nil
            · refine .last fun hmem => ?_
              have hne : line ≠ [] := List.ne_nil_of_mem hmem
              rw [← List.dropLast_append_getLast hne] at hmem
              rcases List.mem_append.mp hmem with hmem | hmem
              · exact hbody hmem
              · exact hfeed (List.mem_singleton.mp hmem ▸ List.getLast?_eq_some_getLast hne)
        | cons next others =>
            rw [List.dropLast_cons_cons] at hended
            obtain ⟨hfeed, hended⟩ := List.forall_mem_cons.mp hended
            rw [← List.dropLast_append_getLast? _ hfeed]
            exact .cons hbody (ih hlast hended)

/-- The lines of a text are those that it is cut into. -/
theorem are_lines_iff {text : List Char} {lines : List (List Char)} :
    AreLines text lines ↔ lines = splitLines text := by
  constructor
  · intro h
    rw [← h.flatten]
    exact ((rows_iff.mpr ⟨h.feed_last, h.ended⟩).split_lines_eq h.ne_nil).symm
  · rintro rfl
    obtain ⟨hlast, hended⟩ := rows_iff.mp (split_lines_rows text)
    exact ⟨split_lines_flatten text, fun _ => split_lines_ne_nil, hlast, hended⟩

/-- The piece at the ordinal of a line is the line without its terminator. -/
theorem piece_of_line {text line : List Char} {index : Nat}
    (h : (splitLines text)[index]? = some line) :
    ∃ piece terminator, line = piece ++ terminator ∧ '\n' ∉ piece ∧ IsTerminator terminator ∧
      (splitAtChar '\n' text)[index]? = some piece := by
  obtain ⟨hindex, rfl⟩ := List.getElem?_eq_some_iff.mp h
  obtain ⟨piece, terminator, hpiece, hterminator, heq⟩ :=
    (split_lines_rows text).body_of_mem (List.getElem_mem hindex)
  have hsplit := (split_lines_rows text).split_at_feed hindex
  rw [split_lines_flatten, heq, split_terminator_append hpiece hterminator] at hsplit
  exact ⟨piece, terminator, heq, hpiece, hterminator, hsplit⟩

/-- A text with an empty line, a separator that ends no line, and a line feed at its end, behind
which there is a piece but no line. -/
example :
    splitLines "a\n\nb\u2028c\n".toList = ["a\n".toList, "\n".toList, "b\u2028c\n".toList] ∧
      splitAtChar '\n' "a\n\nb\u2028c\n".toList = [['a'], [], "b\u2028c".toList, []] := by
  decide

end Text

namespace Report

open Text

/-- What is shown for a warning on the line at an ordinal is the line of the file at this
ordinal. -/
theorem snippet_of_index {lines : List (List Char)} {warning : Warning} {index : Nat}
    (h : warning.line = index) : snippet? lines warning = lines[index]? := by
  rw [snippet?, if_neg (by omega), h, Int.toNat_natCast]

/-- A file that can be read is shown by the pieces of its text. -/
theorem file_lines_of_read {tree : FileTree} {cwd : Location} {root : Path} {heading : String}
    {bytes : List UInt8} (h : tree.read cwd (root.join (.ofString heading)) = .ok bytes) :
    fileLines tree cwd root heading = splitAtChar '\n' (unifyNewlines (decodeLossy bytes)) := by
  rw [fileLines, h]

/-- A text is made up of lines in one way only, which is how it is cut. The piece between line feeds
at the ordinal of a line is the line without its terminator, and this is what a report shows for a
warning on the line, whatever the file is from which it reads the text. -/
theorem lines_determined (text : List Char) :
    (∀ lines, AreLines text lines ↔ lines = splitLines text) ∧
      ∀ (index : Nat) (line : List Char), (splitLines text)[index]? = some line →
        ∃ piece terminator, line = piece ++ terminator ∧ '\n' ∉ piece ∧ IsTerminator terminator ∧
          (splitAtChar '\n' text)[index]? = some piece ∧
          ∀ (tree : FileTree) (cwd : Location) (root : Path) (heading : String)
            (bytes : List UInt8) (warning : Warning),
            tree.read cwd (root.join (.ofString heading)) = .ok bytes →
            unifyNewlines (decodeLossy bytes) = text → warning.line = index →
            snippet? (fileLines tree cwd root heading) warning = some piece := by
  refine ⟨fun _ => are_lines_iff, fun index line hline => ?_⟩
  obtain ⟨piece, terminator, heq, hpiece, hterminator, hindex⟩ := piece_of_line hline
  refine ⟨piece, terminator, heq, hpiece, hterminator, hindex, ?_⟩
  intro tree cwd root heading bytes warning hread htext hwarning
  rw [snippet_of_index hwarning, file_lines_of_read hread, htext, hindex]

end Report

end ChannelLint
