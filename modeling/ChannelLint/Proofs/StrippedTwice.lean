import ChannelLint.Proofs.OpenedComments

/-!
# Stripping what is stripped

A line is `Settled` if stripping leaves it as it is, outside comments. Whatever line is stripped, in
whatever state, what is left of it is settled: `strip_settled`. In a script this is because only marks
inside literals are left, in markup because no opening mark is. The lines of a stripped text are such
lines, except that a last one of which nothing is left is gone, so stripping the text again changes
nothing and ends outside comments: `strip_lines_settled`.
-/

namespace ChannelLint

/-- The lines of texts that stand in a row are among these texts. -/
theorem Text.Rows.mem_of_mem_split_lines {rows : List (List Char)} (h : Text.Rows rows)
    {line : List Char} (hline : line ∈ Text.splitLines rows.flatten) : line ∈ rows := by
  induction h with
  | nil => cases hline
  | @last body hbody =>
      rw [List.flatten_singleton] at hline
      by_cases hempty : body = []
      · rw [hempty] at hline
        cases hline
      · rwa [Text.split_lines_last hbody hempty] at hline
  | @cons body rest hbody hrest ih =>
      rw [List.flatten_cons, List.append_assoc, List.singleton_append,
        Text.split_lines_cons _ hbody] at hline
      rcases List.mem_cons.mp hline with rfl | hline
      · exact List.mem_cons_self
      · exact List.mem_cons_of_mem _ (ih hline)

namespace Comment

open Text

/-! ## Scripts -/

/-- Every comment mark in the text stands in a literal: there is an odd number of quotes in front of
it. -/
def MarksQuoted (text : List Char) : Prop :=
  ∀ before after, text = before ++ scriptMark :: after → before.count '"' % 2 = 1

/-- Code has no comment. -/
theorem script_code_idempotent (inString : Bool) (body : List Char) :
    scriptCode inString (scriptCode inString body) = scriptCode inString body := by
  fun_induction scriptCode inString body with
  | case1 => rfl
  | case2 inString c rest hquote ih => rw [scriptCode, if_pos hquote, ih]
  | case3 => rfl
  | case4 inString c rest hquote hmark ih => rw [scriptCode, if_neg hquote, if_neg hmark, ih]

/-- There is no comment mark in the end of a line. -/
theorem terminator_ne_mark {terminator before after : List Char} (h : IsTerminator terminator) :
    terminator ≠ before ++ scriptMark :: after := by
  intro heq
  have hmem : scriptMark ∈ terminator := heq ▸ by simp
  rcases h with rfl | rfl
  · cases hmem
  · revert hmem
    decide

/-- A comment mark in code, which may end a line, has quotes in front of it that leave it in a
literal. -/
theorem count_quotes_before_mark {inString : Bool} {body terminator before after : List Char}
    (hterminator : IsTerminator terminator)
    (h : scriptCode inString body ++ terminator = before ++ scriptMark :: after) :
    (inString.toNat + before.count '"') % 2 = 1 := by
  fun_induction scriptCode inString body generalizing before with
  | case1 => exact absurd h (terminator_ne_mark hterminator)
  | case2 inString c rest hquote ih =>
      obtain rfl : c = '"' := by simpa using hquote
      cases before with
      | nil => cases (List.cons.inj h).1
      | cons first before =>
          obtain ⟨rfl, hrest⟩ := List.cons.inj h
          have hcount := ih hrest
          rw [List.count_cons_self]
          cases inString <;> simp only [Bool.not_false, Bool.not_true, Bool.toNat_false,
            Bool.toNat_true] at hcount ⊢ <;> omega
  | case3 => exact absurd h (terminator_ne_mark hterminator)
  | case4 inString c rest hquote hmark ih =>
      cases before with
      | nil =>
          -- outside literals the mark would have ended the code
          obtain ⟨rfl, -⟩ := List.cons.inj h
          cases inString
          · simp at hmark
          · rfl
      | cons first before =>
          obtain ⟨rfl, hrest⟩ := List.cons.inj h
          rw [List.count_cons_of_ne (by simpa using hquote)]
          exact ih hrest

/-- The comment marks that are left in a script line stand in literals. -/
theorem marks_quoted_strip_script {body terminator : List Char} (hbody : '\n' ∉ body)
    (hterminator : IsTerminator terminator) : MarksQuoted (stripScript (body ++ terminator)) := by
  intro before after heq
  rw [strip_script_append hbody hterminator] at heq
  simpa using count_quotes_before_mark hterminator heq

/-! ## Lines that stripping leaves alone -/

/-- Stripping leaves the line as it is, outside comments. -/
def Settled (dialect : Dialect) (line : List Char) : Prop :=
  strip dialect .outside line = (.outside, line)

/-- A markup line without an opening mark is left alone. -/
theorem settled_of_no_open_mark {body terminator : List Char} (hbody : '\n' ∉ body)
    (hterminator : IsTerminator terminator) (h : ¬ openMark <:+: body) :
    Settled .markup (body ++ terminator) := by
  simp only [Settled, strip, stripMarkup, split_terminator_append hbody hterminator,
    stripMarkupOutside, drop_inline_eq_self h, split_once_eq_none h]

/-- What is left of a markup line is a body without an opening mark and the end of the line. -/
theorem strip_markup_no_open_mark (state : CommentState) {body terminator : List Char}
    (hbody : '\n' ∉ body) (hterminator : IsTerminator terminator) :
    ∃ kept, ¬ openMark <:+: kept ∧
      (strip .markup state (body ++ terminator)).2 = kept ++ terminator := by
  simp only [strip, stripMarkup, split_terminator_append hbody hterminator,
    strip_markup_outside_eq]
  cases state with
  | outside => exact ⟨_, no_open_mark_cut_open _, rfl⟩
  | inside =>
      cases splitOnce closeMark body with
      | none => exact ⟨[], by decide, rfl⟩
      | some parts => exact ⟨_, no_open_mark_cut_open _, rfl⟩

/-- What is left of a line is left alone. -/
theorem strip_settled (dialect : Dialect) (state : CommentState) {body terminator : List Char}
    (hbody : '\n' ∉ body) (hterminator : IsTerminator terminator) :
    Settled dialect (strip dialect state (body ++ terminator)).2 := by
  cases dialect with
  | script =>
      have hcode : '\n' ∉ scriptCode false body := fun hmem =>
        hbody ((script_code_initial false body).subset hmem)
      simp only [Settled, strip, strip_script_append hbody hterminator,
        strip_script_append hcode hterminator, script_code_idempotent]
  | markup =>
      obtain ⟨kept, hkept, heq⟩ := strip_markup_no_open_mark state hbody hterminator
      obtain ⟨part, hpart, hpartEq⟩ := strip_body .markup state hbody hterminator
      obtain rfl : kept = part := List.append_cancel_right (heq.symm.trans hpartEq)
      rw [heq]
      exact settled_of_no_open_mark (fun hmem => hbody (hpart.subset hmem)) hterminator hkept
  | plain => rfl

/-! ## Texts -/

/-- Lines that stripping leaves alone are stripped to themselves, and the last is outside
comments. -/
theorem strip_lines_of_settled {dialect : Dialect} {lines : List (List Char)}
    (h : ∀ line ∈ lines, Settled dialect line) :
    stripLines dialect .outside lines = lines.map fun line => ⟨line, line, .outside⟩ := by
  induction lines with
  | nil => rfl
  | cons line rest ih =>
      obtain ⟨hline, hrest⟩ := List.forall_mem_cons.mp h
      have hstrip : strip dialect .outside line = (.outside, line) := hline
      simp only [stripLines, hstrip, ih hrest, List.map_cons]

/-- Both texts of lines that stripping leaves alone are these lines. -/
theorem texts_of_settled {dialect : Dialect} {lines : List (List Char)}
    (h : ∀ line ∈ lines, Settled dialect line) :
    withoutComments (stripLines dialect .outside lines) = lines.flatten ∧
      withComments dialect (stripLines dialect .outside lines) = lines.flatten ∧
      finalState (stripLines dialect .outside lines) = .outside := by
  rw [strip_lines_of_settled h]
  refine ⟨?_, ?_, ?_⟩
  · simp [withoutComments, List.flatMap_map]
  · simp [withComments, List.flatMap_map]
  · cases hlast : lines.getLast? <;> simp [finalState, hlast]

/-- What is left of lines is left of one of them, stripped in some state. -/
theorem exists_of_mem_codes {dialect : Dialect} {state : CommentState} {lines : List (List Char)}
    {code : List Char} (h : code ∈ (stripLines dialect state lines).map StrippedLine.code) :
    ∃ before, ∃ line ∈ lines, code = (strip dialect before line).2 := by
  induction lines generalizing state with
  | nil => cases h
  | cons line rest ih =>
      rcases List.mem_cons.mp h with rfl | h
      · exact ⟨state, line, List.mem_cons_self, rfl⟩
      · obtain ⟨before, later, hlater, hcode⟩ := ih h
        exact ⟨before, later, List.mem_cons_of_mem _ hlater, hcode⟩

/-- A line of a stripped text is what is left of a line. -/
theorem exists_of_mem_stripped {dialect : Dialect} {text line : List Char}
    (h : line ∈ splitLines (withoutComments (stripLines dialect .outside (splitLines text)))) :
    ∃ state body terminator, '\n' ∉ body ∧ IsTerminator terminator ∧
      line = (strip dialect state (body ++ terminator)).2 := by
  have hrows : Rows ((stripLines dialect .outside (splitLines text)).map StrippedLine.code) :=
    seen_rows dialect false .outside text
  obtain ⟨state, raw, hraw, rfl⟩ := exists_of_mem_codes (hrows.mem_of_mem_split_lines h)
  obtain ⟨body, terminator, hbody, hterminator, rfl⟩ := (split_lines_rows text).body_of_mem hraw
  exact ⟨state, body, terminator, hbody, hterminator, rfl⟩

/-- There is no opening mark in lines without one. -/
theorem no_open_mark_flatten {lines : List (List Char)} (h : Rows lines)
    (hlines : ∀ line ∈ lines, ¬ openMark <:+: line) : ¬ openMark <:+: lines.flatten := by
  induction h with
  | nil => decide
  | last hbody => simpa using hlines
  | @cons body rest hbody hrest ih =>
      obtain ⟨hfirst, hothers⟩ := List.forall_mem_cons.mp hlines
      rw [List.flatten_cons, List.append_assoc, List.singleton_append]
      intro hmark
      rcases infix_of_append_feed (by decide) hmark with hhere | hlater
      · exact hfirst (hhere.trans (List.prefix_append _ _).isInfix)
      · exact ih hothers hlater

/-- Stripping a stripped text of any dialect leaves it as it is, with or without comments, and ends
outside comments. There is no opening mark in stripped markup, and in a line of a stripped script
every comment mark stands in a literal. -/
theorem strip_lines_settled (dialect : Dialect) (text : List Char) :
    let stripped := withoutComments (stripLines dialect .outside (splitLines text))
    let again := stripLines dialect .outside (splitLines stripped)
    withoutComments again = stripped ∧ withComments dialect again = stripped ∧
      finalState again = .outside ∧
      (dialect = .markup → ¬ openMark <:+: stripped) ∧
      (dialect = .script → ∀ line ∈ splitLines stripped, MarksQuoted line) := by
  intro stripped again
  have hsettled : ∀ line ∈ splitLines stripped, Settled dialect line := by
    intro line hline
    obtain ⟨state, body, terminator, hbody, hterminator, rfl⟩ := exists_of_mem_stripped hline
    exact strip_settled dialect state hbody hterminator
  obtain ⟨hwithout, hwith, hfinal⟩ := texts_of_settled hsettled
  rw [split_lines_flatten stripped] at hwithout hwith
  refine ⟨hwithout, hwith, hfinal, ?_, ?_⟩
  · rintro rfl
    rw [← split_lines_flatten stripped]
    refine no_open_mark_flatten (split_lines_rows stripped) fun line hline => ?_
    obtain ⟨state, body, terminator, hbody, hterminator, rfl⟩ := exists_of_mem_stripped hline
    obtain ⟨kept, hkept, heq⟩ := strip_markup_no_open_mark state hbody hterminator
    rwa [heq, infix_append_terminator (by decide) hterminator]
  · rintro rfl line hline
    obtain ⟨state, body, terminator, hbody, hterminator, rfl⟩ := exists_of_mem_stripped hline
    exact marks_quoted_strip_script hbody hterminator

/-- A script with a mark in a literal, a doubled quote, and a last line of which nothing is left; and
markup in which the parts around a comment make up an opening mark. -/
theorem strip_lines_settled_twice :
    let script := "x = \"it's \"\" ' \"' y\n' z".toList
    let markup := "a<<!-- b -->!-- c\n-->d<!--".toList
    let code := withoutComments (stripLines .script .outside (splitLines script))
    let tags := withoutComments (stripLines .markup .outside (splitLines markup))
    code = "x = \"it's \"\" ' \"\n".toList ∧ (∀ line ∈ splitLines code, MarksQuoted line) ∧
      withComments .script (stripLines .script .outside (splitLines code)) = code ∧
      tags = "a\nd".toList ∧ ¬ openMark <:+: tags ∧
      finalState (stripLines .markup .outside (splitLines tags)) = .outside := by
  intro script markup code tags
  obtain ⟨-, hcode, -, -, hquoted⟩ := strip_lines_settled .script script
  obtain ⟨-, -, htags, hopen, -⟩ := strip_lines_settled .markup markup
  exact ⟨by decide +kernel, hquoted rfl, hcode, by decide +kernel, hopen rfl, htags⟩

end Comment

end ChannelLint
