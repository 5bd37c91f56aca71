import ChannelLint.Comment
import ChannelLint.Proofs.Lines

/-!
# What stripping leaves of a line

Stripping takes characters out of the body of a line and keeps the line's end. `strip_body` states
it for one line of any dialect in any state; over a file it follows, in `seen_rows`, that what a
rule sees of the lines stands in a row just as the lines do.
-/

namespace ChannelLint.Text

/-- What `splitOnce` finds is the text, cut around one occurrence of the part. -/
theorem split_once_append {part text before after : List Char}
    (h : splitOnce part text = some (before, after)) : text = before ++ part ++ after := by
  induction text generalizing before after with
  | nil =>
      simp only [splitOnce] at h
      split at h
      · cases h
        simp_all
      · cases h
  | cons c rest ih =>
      simp only [splitOnce] at h
      split at h
      case isTrue hprefix =>
          cases h
          obtain ⟨tail, htail⟩ := List.isPrefixOf_iff_prefix.mp hprefix
          rw [List.nil_append, ← htail, List.drop_left]
      case isFalse =>
          obtain ⟨⟨early, late⟩, hrest, heq⟩ := Option.map_eq_some_iff.mp h
          cases heq
          simpa using ih hrest

end ChannelLint.Text

namespace ChannelLint.Comment

open Text

/-! ## One line -/

/-- The code of a script is a first part of it. -/
theorem script_code_initial (inString : Bool) (body : List Char) :
    scriptCode inString body <+: body := by
  fun_induction scriptCode inString body with
  | case1 => exact List.nil_prefix
  | case2 inString c rest hquote ih => exact (List.prefix_cons_inj c).mpr ih
  | case3 => exact List.nil_prefix
  | case4 inString c rest hquote hmark ih => exact (List.prefix_cons_inj c).mpr ih

/-- A script line is its code and its end. -/
theorem strip_script_append {body terminator : List Char} (hbody : '\n' ∉ body)
    (hterminator : IsTerminator terminator) :
    stripScript (body ++ terminator) = scriptCode false body ++ terminator := by
  simp [stripScript, split_terminator_append hbody hterminator]

/-- Taking comments out of a line only deletes. -/
theorem drop_inline_sublist (inComment : Bool) (body : List Char) :
    (dropInline inComment body).Sublist body := by
  fun_induction dropInline inComment body with
  | case1 => exact List.Sublist.refl _
  | case2 after ih => exact ((ih.cons _).cons _).cons _
  | case3 c rest hclose ih => exact ih.cons _
  | case4 after hcloses ih => exact (((ih.cons _).cons _).cons _).cons _
  | case5 after hcloses ih => exact (((ih.cons_cons _).cons_cons _).cons_cons _).cons_cons _
  | case6 c rest hopen ih => exact ih.cons_cons _

/-- A markup line outside comments keeps its end and some of its body. -/
theorem strip_markup_outside_body (body terminator : List Char) :
    ∃ kept, kept.Sublist body ∧ (stripMarkupOutside body terminator).2 = kept ++ terminator := by
  have hkept := drop_inline_sublist false body
  simp only [stripMarkupOutside]
  split
  case h_1 before after hsplit =>
      refine ⟨before, List.Sublist.trans ?_ hkept, rfl⟩
      rw [split_once_append hsplit, List.append_assoc]
      exact List.sublist_append_left _ _
  case h_2 => exact ⟨_, hkept, rfl⟩

/-- A stripped line keeps its end and some of its body. -/
theorem strip_body (dialect : Dialect) (state : CommentState) {body terminator : List Char}
    (hbody : '\n' ∉ body) (hterminator : IsTerminator terminator) :
    ∃ kept, kept.Sublist body ∧ (strip dialect state (body ++ terminator)).2 = kept ++ terminator := by
  cases dialect with
  | script =>
      exact ⟨scriptCode false body, (script_code_initial false body).sublist,
        strip_script_append hbody hterminator⟩
  | plain => exact ⟨body, List.Sublist.refl _, rfl⟩
  | markup =>
      simp only [strip, stripMarkup, split_terminator_append hbody hterminator]
      cases state with
      | outside => exact strip_markup_outside_body body terminator
      | inside =>
          cases hsplit : splitOnce closeMark body with
          | none => exact ⟨[], List.nil_sublist _, rfl⟩
          | some parts =>
              -- behind the end of the comment the line is stripped as one outside comments
              obtain ⟨kept, hkept, heq⟩ := strip_markup_outside_body parts.2 terminator
              refine ⟨kept, hkept.trans ?_, heq⟩
              rw [split_once_append hsplit]
              exact List.sublist_append_right _ _

/-- A stripped line ends as the line does. -/
theorem strip_ends_alike (dialect : Dialect) (state : CommentState) (line : List Char) :
    EndsAlike line (strip dialect state line).2 := by
  intro body terminator hbody hterminator hline
  obtain ⟨kept, hkept, heq⟩ := strip_body dialect state hbody hterminator
  exact ⟨kept, fun hmem => hbody (hkept.subset hmem), by rw [hline, heq]⟩

/-! ## Files -/

/-- What a rule that does or does not look into comments sees of a line. -/
def seen (dialect : Dialect) (includeComments : Bool) (line : StrippedLine) : List Char :=
  if includeComments && dialect != .script then line.raw else line.code

/-- Stripping keeps the raw lines. -/
theorem strip_lines_raw (dialect : Dialect) (state : CommentState) (lines : List (List Char)) :
    (stripLines dialect state lines).map StrippedLine.raw = lines := by
  induction lines generalizing state with
  | nil => rfl
  | cons line rest ih => simp [stripLines, ih]

/-- What is seen of the lines ends as they do. -/
theorem seen_ends_alike (dialect : Dialect) (includeComments : Bool) (state : CommentState)
    (lines : List (List Char)) :
    List.Forall₂ EndsAlike lines
      ((stripLines dialect state lines).map (seen dialect includeComments)) := by
  induction lines generalizing state with
  | nil => exact .nil
  | cons line rest ih =>
      refine .cons ?_ (ih _)
      unfold seen
      split
      · exact .refl line
      · exact strip_ends_alike dialect state line

/-- What is seen of the lines of a text stands in a row. -/
theorem seen_rows (dialect : Dialect) (includeComments : Bool) (state : CommentState)
    (text : List Char) :
    Rows ((stripLines dialect state (splitLines text)).map (seen dialect includeComments)) :=
  (split_lines_rows text).of_ends_alike (seen_ends_alike dialect includeComments state _)

/-- The text that a rule looks at is what it sees of the lines, one after the other. -/
theorem seen_flatten (dialect : Dialect) (includeComments : Bool) (lines : List StrippedLine) :
    (lines.map (seen dialect includeComments)).flatten =
      if includeComments then withComments dialect lines else withoutComments lines := by
  cases includeComments with
  | false => rfl
  | true => cases dialect <;> rfl

end ChannelLint.Comment
