import ChannelLint.Proofs.CommentTails

/-!
# Comment text and indentation

Indentation is checked on the raw lines, and the depth machine takes the comments out of them on its
own. It learns no more of a line than the stripper leaves of it: `IndentState.readMarkup` makes a
step out of the stripped line and the state after it, and by `step_markup_eq` this is the step of the
raw line, unless a declaration starts there or character data ends there. The check looks at the raw
line once more, but only for its leading spaces and tabs and for whether it is blank.

Hence two files that look alike once comments are taken out are indented alike, whatever their
comments say: `Inspection.indentation_of_seen_alike`.
-/

namespace ChannelLint

open Text

namespace IndentState

open Markup Comment

/-! ## Steps of stripped lines -/

/-- Reads the code of a markup line, after which the comment state is the given one. -/
def readMarkup (state : IndentState) (after : CommentState) (code : List Char) : IndentStep :=
  let here := { state with inComment := after == .inside }
  if state.inComment then
    if after = .outside then here.passTail code else ⟨here, none⟩
  else if state.inData then ⟨here, none⟩
  else if after = .inside ∧ isBlankText code then ⟨here, none⟩
  else here.stepTags code

/-- Line breaks at the end of the code make no difference. -/
theorem read_markup_append_breaks (state : IndentState) (after : CommentState) (code : List Char)
    {breaks : List Char} (h : IsBreaks breaks) :
    state.readMarkup after (code ++ breaks) = state.readMarkup after code := by
  simp only [readMarkup, passTail, balance_append_breaks h, step_tags_append_breaks h,
    is_blank_text_append_breaks h]

/-- The depth machine reads a markup line by what the stripper leaves of it, unless a declaration
starts in the line or character data ends there. -/
theorem step_markup_eq (state : IndentState) {before : CommentState} {line body : List Char}
    (hends : Ends line body) (hcode : Undeclared line) (hclose : ¬ dataClose <:+: line)
    (hcomment : state.inComment = (before == .inside)) :
    state.step .markup line ((strip .markup before line).1 == .inside) =
      state.readMarkup (strip .markup before line).1 (strip .markup before line).2 := by
  rw [(strip_visible before hends).1,
    strip_visible_same hends fun text _ => read_markup_append_breaks state _ text]
  have hinitial : dropBreaks line <:+: line := (drop_breaks_initial line).isInfix
  cases before with
  | inside =>
      have hinside : state.inComment = true := hcomment
      rw [step_inside state hcomment, readMarkup, if_pos hinside]
  | outside =>
      have houtside : ¬ state.inComment = true := by simp [hcomment]
      rw [readMarkup, if_neg houtside]
      by_cases hdata : state.inData = true
      · -- the character data goes on behind the line
        have hopen : splitOnce dataClose (dropBreaks line) = none :=
          split_once_eq_none fun hpart => hclose (hpart.trans hinitial)
        simp only [step, stepMarkup, hopen, houtside, hdata, Bool.false_eq_true, ↓reduceIte]
      · rw [step_outside state hcomment (Bool.eq_false_iff.mpr hdata)
          (hcode.of_part hinitial).not_declaration, if_neg hdata]

end IndentState

/-! ## Files that look alike without comments -/

namespace Comment

/-- Two lines of which the stripper leaves the same, that start with the same spaces and tabs, and
that are both blank or both not. -/
structure SeenAlike (line other : StrippedLine) : Prop where
  code : line.code = other.code
  after : line.after = other.after
  leading : Indentation.leading line.raw = Indentation.leading other.raw
  blank : isBlankText line.raw = isBlankText other.raw

instance (line other : StrippedLine) : Decidable (SeenAlike line other) :=
  decidable_of_iff (line.code = other.code ∧ line.after = other.after ∧
      Indentation.leading line.raw = Indentation.leading other.raw ∧
      isBlankText line.raw = isBlankText other.raw)
    ⟨fun ⟨code, after, leading, blank⟩ => ⟨code, after, leading, blank⟩,
      fun ⟨code, after, leading, blank⟩ => ⟨code, after, leading, blank⟩⟩

/-- The marks of declarations, processing instructions and character data do not stand in the
text. -/
def Unmarked (text : List Char) : Prop :=
  Markup.Undeclared text ∧ ¬ Markup.dataClose <:+: text

instance (text : List Char) : Decidable (Unmarked text) :=
  inferInstanceAs (Decidable (_ ∧ _))

/-- The lines of a text without these marks are without them. -/
theorem Unmarked.of_mem {text line : List Char} (h : Unmarked text) (hline : line ∈ splitLines text) :
    Unmarked line := by
  have hpart : line <:+: text := split_lines_flatten text ▸ List.infix_of_mem_flatten hline
  exact ⟨h.1.of_part hpart, fun hmark => h.2 (hmark.trans hpart)⟩

end Comment

namespace IndentState

open Comment

/-- A line that the depth machine reads by its code: it ends as a line does, and a markup line has no
marks other than those of tags and comments. -/
def ReadByCode (dialect : Dialect) (line : List Char) : Prop :=
  (∃ body, Ends line body) ∧ (dialect = .markup → Unmarked line)

/-- Lines of which the stripper leaves the same make the same step. -/
theorem step_seen_alike {dialect : Dialect} {line other : List Char}
    (hline : ReadByCode dialect line) (hother : ReadByCode dialect other) {state : IndentState}
    {before : CommentState} (hcomment : dialect = .markup → state.inComment = (before == .inside))
    (hsame : strip dialect before line = strip dialect before other) :
    state.step dialect line ((strip dialect before line).1 == .inside) =
      state.step dialect other ((strip dialect before other).1 == .inside) := by
  cases dialect with
  | plain => rfl
  | script =>
      have hcode : Script.codeOf line = Script.codeOf other :=
        congrArg dropBreaks (congrArg Prod.snd hsame)
      simp only [step, stepScript, hcode]
  | markup =>
      obtain ⟨⟨body, hends⟩, hmarks⟩ := hline
      obtain ⟨⟨kept, hkept⟩, hkeptMarks⟩ := hother
      rw [state.step_markup_eq hends (hmarks rfl).1 (hmarks rfl).2 (hcomment rfl),
        state.step_markup_eq hkept (hkeptMarks rfl).1 (hkeptMarks rfl).2 (hcomment rfl), ← hsame]

end IndentState

namespace Inspection

open Comment Indentation

/-- The steps of two files in which line by line the stripper leaves the same are the same. -/
theorem run_seen_alike {dialect : Dialect} {lines others : List (List Char)}
    (hlines : ∀ line ∈ lines, IndentState.ReadByCode dialect line)
    (hothers : ∀ line ∈ others, IndentState.ReadByCode dialect line) {state : IndentState}
    {before : CommentState} (hcomment : dialect = .markup → state.inComment = (before == .inside))
    (halike : List.Forall₂ SeenAlike (stripLines dialect before lines)
      (stripLines dialect before others)) :
    run dialect state ((stripLines dialect before lines).map fun line =>
        (line.raw, line.after == .inside)) =
      run dialect state ((stripLines dialect before others).map fun line =>
        (line.raw, line.after == .inside)) := by
  -- along the lines: the machine is in a comment exactly where the stripper is
  induction lines generalizing others state before with
  | nil =>
      cases others with
      | nil => rfl
      | cons other others => cases halike
  | cons line lines ih =>
      cases others with
      | nil => cases halike
      | cons other others =>
          rw [List.forall_mem_cons] at hlines hothers
          simp only [stripLines, List.forall₂_cons] at halike
          obtain ⟨hfirst, hrest⟩ := halike
          have hsame : strip dialect before line = strip dialect before other :=
            Prod.ext hfirst.after hfirst.code
          have hstep := IndentState.step_seen_alike hlines.1 hothers.1 hcomment hsame
          have hnext : dialect = .markup →
              (state.step dialect line ((strip dialect before line).1 == .inside)).next.inComment =
                ((strip dialect before line).1 == .inside) := by
            rintro rfl
            exact state.step_markup_in_comment line _
          rw [← hsame] at hrest hstep
          simp only [stripLines, List.map_cons, run, ← hsame, ← hstep,
            ih hlines.2 hothers.2 hnext hrest]

/-- In two files in which line by line the stripper leaves the same and reaches the same state, and
the raw lines start with the same spaces and tabs and are both blank or both not, the depth machine
makes the same steps, and the same lines are flagged, however indentation is configured. Markup must
hold no declarations, processing instructions or character data. -/
theorem indentation_of_seen_alike {dialect : Dialect} {text other : List Char}
    (hmarks : dialect = .markup → Unmarked text ∧ Unmarked other)
    (halike : List.Forall₂ SeenAlike (stripLines dialect .outside (splitLines text))
      (stripLines dialect .outside (splitLines other))) :
    indentSteps dialect (stripLines dialect .outside (splitLines text)) =
        indentSteps dialect (stripLines dialect .outside (splitLines other)) ∧
      ∀ config, misindented config dialect (stripLines dialect .outside (splitLines text)) =
        misindented config dialect (stripLines dialect .outside (splitLines other)) := by
  have hread : ∀ {whole : List Char}, (dialect = .markup → Unmarked whole) →
      ∀ line ∈ splitLines whole, IndentState.ReadByCode dialect line :=
    fun hwhole line hline => ⟨exists_ends_of_mem hline, fun h => (hwhole h).of_mem hline⟩
  have hsteps : indentSteps dialect (stripLines dialect .outside (splitLines text)) =
      indentSteps dialect (stripLines dialect .outside (splitLines other)) :=
    run_seen_alike (hread fun h => (hmarks h).1) (hread fun h => (hmarks h).2) (fun _ => rfl) halike
  refine ⟨hsteps, fun config => misindented_congr ?_ hsteps⟩
  rw [List.forall₂_map_left_iff, List.forall₂_map_right_iff]
  exact halike.imp fun line changed hline => checks_alike_of_leading hline.blank hline.leading

/-- Two comments, one of them over two lines, in place of which others with tags stand. The second
line of the file stands too deep in both. -/
theorem indentation_of_comments_with_tags :
    let text := "<a><!-- x -->\n     <b/> <!-- y\n  z -->\n</a>\n".toList
    let other := "<a><!-- </a> -->\n     <b/> <!-- <c>\n  </a> -->\n</a>\n".toList
    let lines := stripLines .markup .outside (splitLines text)
    let others := stripLines .markup .outside (splitLines other)
    (Unmarked text ∧ Unmarked other) ∧ List.Forall₂ SeenAlike lines others ∧
      indentSteps .markup lines = indentSteps .markup others ∧
      misindented ⟨.space, 4⟩ .markup lines = .ok [1] ∧
      misindented ⟨.space, 4⟩ .markup others = .ok [1] := by
  intro text other lines others
  have hmarks : Unmarked text ∧ Unmarked other := by decide +kernel
  have halike : List.Forall₂ SeenAlike lines others := by decide +kernel
  have hflagged : misindented ⟨.space, 4⟩ .markup others = .ok [1] := by decide +kernel
  obtain ⟨hsteps, hchecks⟩ :=
    indentation_of_seen_alike (fun _ : Dialect.markup = .markup => hmarks) halike
  exact ⟨hmarks, halike, hsteps, (hchecks ⟨.space, 4⟩).trans hflagged, hflagged⟩

end Inspection

end ChannelLint
