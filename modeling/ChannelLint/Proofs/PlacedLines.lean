import ChannelLint.Proofs.Reindentation

/-!
# Lines in their places

A layout gives lines one after the other, each with the depth at which it should stand. `Reads` says
that the depth machine, which is given the comment states along the way, agrees with these depths
line by line. `Prints` says besides that the lines stand where they should; layouts are put together
by `Prints.append`. In a text that is made of such lines nothing is flagged: `Prints.clean`.
-/

namespace ChannelLint

/-! ## Texts made of lines -/

namespace Text

/-- The text of the given lines, each ended by a line feed. Only the last may go without one, unless
it is empty. -/
def ofBodies (ended : Bool) : List (List Char) → List Char
  | [] => []
  | [body] => if ended || body.isEmpty then body ++ ['\n'] else body
  | body :: next :: rest => body ++ '\n' :: ofBodies ended (next :: rest)

/-- A blank line without its end. -/
structure BlankLine where
  /-- The characters of the line. -/
  text : List Char
  unbroken : '\n' ∉ text
  blank : isBlankText text = true

/-- The line consists of the body and its end. -/
def Ends (line body : List Char) : Prop :=
  '\n' ∉ body ∧ ∃ terminator, IsTerminator terminator ∧ line = body ++ terminator

/-- The lines of a text are those that it was made of. -/
theorem split_lines_of_bodies (ended : Bool) {bodies : List (List Char)}
    (h : ∀ body ∈ bodies, '\n' ∉ body) :
    List.Forall₂ Ends (splitLines (ofBodies ended bodies)) bodies := by
  fun_induction ofBodies ended bodies with
  | case1 => exact .nil
  | case2 body hended =>
      have hbody : '\n' ∉ body := h body (by simp)
      rw [split_lines_cons [] hbody]
      exact .cons ⟨hbody, ['\n'], .inr rfl, rfl⟩ .nil
  | case3 body hended =>
      have hbody : '\n' ∉ body := h body (by simp)
      rw [split_lines_last hbody (by simp_all)]
      exact .cons ⟨hbody, [], .inl rfl, by simp⟩ .nil
  | case4 body next rest ih =>
      rw [List.forall_mem_cons] at h
      rw [split_lines_cons _ h.1]
      exact .cons ⟨h.1, ['\n'], .inr rfl, rfl⟩ (ih h.2)

/-- Every line of a text has a body. -/
theorem exists_ends_of_mem {text line : List Char} (h : line ∈ splitLines text) :
    ∃ body, Ends line body :=
  have ⟨body, terminator, hbody, hterminator, heq⟩ := (split_lines_rows text).body_of_mem h
  ⟨body, hbody, terminator, hterminator, heq⟩

/-- A line of a text is no longer than the text. -/
theorem length_le_of_mem_split_lines {text line : List Char} (h : line ∈ splitLines text) :
    line.length ≤ text.length := by
  rw [← split_lines_flatten text]
  exact (List.sublist_flatten_of_mem h).length_le

/-- The text without the line breaks at its end. -/
abbrev dropBreaks (text : List Char) : List Char :=
  dropEndWhile (fun c => c == '\r' || c == '\n') text

/-- A terminator is dropped with the line breaks at the end of a line. -/
theorem drop_breaks_append (body : List Char) {terminator : List Char}
    (h : IsTerminator terminator) : dropBreaks (body ++ terminator) = dropBreaks body := by
  rcases h with rfl | rfl <;> simp [dropEndWhile]

/-- What is left without line breaks at the end is a first part of the text. -/
theorem drop_breaks_initial (text : List Char) : dropBreaks text <+: text :=
  List.rdropWhile_prefix _ text

/-- The line breaks at the end of a text stand behind a last character that is none. -/
theorem drop_breaks_behind {c : Char} (hc : c ≠ '\r' ∧ c ≠ '\n') (text rest : List Char) :
    dropBreaks (text ++ c :: rest) = text ++ c :: dropBreaks rest := by
  simp only [dropBreaks, dropEndWhile, List.reverse_append, List.reverse_cons, List.append_assoc,
    List.dropWhile_append]
  split <;> simp_all

/-- A text that does not end with a line break keeps its end. -/
theorem drop_breaks_eq_self {text : List Char}
    (h : ∀ c ∈ text.getLast?, c ≠ '\r' ∧ c ≠ '\n') : dropBreaks text = text := by
  refine List.rdropWhile_eq_self_iff.mpr fun hne => ?_
  have hlast := h (text.getLast hne) (List.getLast?_eq_some_getLast hne)
  simp [hlast.1, hlast.2]

end Text

open Text

/-! ## The ends of lines -/

/-- The comment state after a line does not depend on how the line ends. -/
theorem Comment.strip_state_of_ends {line body : List Char} (h : Ends line body) (dialect : Dialect)
    (state : CommentState) : (strip dialect state line).1 = (strip dialect state body).1 := by
  obtain ⟨hbody, terminator, hterminator, rfl⟩ := h
  have hline := split_terminator_append hbody hterminator
  have hplain := split_terminator_append hbody (.inl rfl)
  rw [List.append_nil] at hplain
  have houtside : ∀ rest, (stripMarkupOutside rest terminator).1 =
      (stripMarkupOutside rest []).1 := by
    intro rest
    simp only [stripMarkupOutside]
    cases splitOnce openMark (dropInline false rest) <;> rfl
  cases dialect with
  | script => rfl
  | plain => rfl
  | markup =>
      simp only [strip, stripMarkup, hline, hplain]
      cases state with
      | outside => exact houtside body
      | inside =>
          cases splitOnce closeMark body with
          | none => rfl
          | some parts => exact houtside parts.2

/-- The depth machine does not see how a line ends. -/
theorem IndentState.step_of_ends {line body : List Char} (h : Ends line body) (dialect : Dialect)
    (state : IndentState) (inComment : Bool) :
    state.step dialect line inComment = state.step dialect body inComment := by
  obtain ⟨hbody, terminator, hterminator, rfl⟩ := h
  cases dialect with
  | plain => rfl
  | markup => simp only [step, stepMarkup, drop_breaks_append body hterminator]
  | script =>
      have hline := Comment.strip_script_append hbody hterminator
      have hplain := Comment.strip_script_append hbody (.inl rfl)
      rw [List.append_nil, List.append_nil] at hplain
      simp only [step, stepScript, Script.codeOf, hline, hplain, drop_breaks_append _ hterminator]

namespace Indentation

/-- The check does not see how a line ends. -/
theorem checks_alike_of_ends {line body : List Char} (h : Ends line body) (config : IndentConfig) :
    ChecksAlike config line body := by
  obtain ⟨-, terminator, hterminator, rfl⟩ := h
  rcases hterminator with rfl | rfl
  · rw [List.append_nil]
    exact checks_alike_of_leading rfl rfl
  · refine checks_alike_of_leading ?_ ?_
    · simp [isBlankText, isBlank]
    · simp only [leading, List.takeWhile_append]
      split
      case isTrue hall => simp [(List.takeWhile_sublist _).eq_of_length hall]
      case isFalse => rfl

/-! ## Reading placed lines -/

/-- A line without its end, and the depth at which it should stand; `none` if it may stand
anywhere. -/
structure PlacedLine where
  /-- The characters of the line. -/
  body : List Char
  /-- The depth at which the line should stand. -/
  place : Option Nat

/-- Reading the lines one after the other leads from the first two states to the last two, and every
line should stand at its place. -/
inductive Reads (dialect : Dialect) :
    CommentState → IndentState → List PlacedLine → CommentState → IndentState → Prop where
  | nil {comment : CommentState} {state : IndentState} :
      Reads dialect comment state [] comment state
  | cons {comment next last : CommentState} {state after final : IndentState} {line : PlacedLine}
      {rest : List PlacedLine} :
      (Comment.strip dialect comment line.body).1 = next →
      state.step dialect line.body (next == .inside) = ⟨after, line.place⟩ →
      Reads dialect next after rest last final →
      Reads dialect comment state (line :: rest) last final

/-- The text at the indentation of the given depth. -/
def indented (config : IndentConfig) (depth : Nat) (text : List Char) : List Char :=
  List.replicate (expectedLength config depth) config.character.char ++ text

/-- The text as a line that stands at the depth at which it should stand. -/
def placedAt (config : IndentConfig) (depth : Nat) (text : List Char) : PlacedLine :=
  ⟨indented config depth text, some depth⟩

/-- An indented text has the content of the text. -/
theorem content_indented (config : IndentConfig) (depth : Nat) (text : List Char) :
    content (indented config depth text) = content text :=
  content_append (fun _ => is_indent_of_mem_replicate) text

/-- Indentation breaks no line. -/
theorem not_mem_indented {config : IndentConfig} {text : List Char} (h : '\n' ∉ text)
    (depth : Nat) : '\n' ∉ indented config depth text := by
  rw [indented, List.mem_append]
  rintro (hmem | hmem)
  · cases is_indent_of_mem_replicate hmem
  · exact h hmem

/-- A text without leading spaces and tabs keeps its place where it is indented. -/
theorem is_flagged_indented {text : List Char} (h : leading text = []) (config : IndentConfig)
    (depth : Nat) : isFlagged config (indented config depth text) (some depth) = false := by
  have htext : content text = text := by
    have hsplit := leading_append_content text
    rwa [h, List.nil_append] at hsplit
  have hleading : leading (indented config depth text) =
      List.replicate (expectedLength config depth) config.character.char := by
    rw [indented, ← htext]
    exact leading_append_self (fun _ => is_indent_of_mem_replicate) text
  simp [isFlagged, agrees, hleading]

section Reads

variable {dialect : Dialect} {comment next last : CommentState} {state after final : IndentState}

/-- Layouts are read one after the other. -/
theorem Reads.append {first second : List PlacedLine}
    (h : Reads dialect comment state first next after)
    (hsecond : Reads dialect next after second last final) :
    Reads dialect comment state (first ++ second) last final := by
  induction h with
  | nil => exact hsecond
  | cons hcomment hstep _ ih => exact .cons hcomment hstep (ih hsecond)

/-- The state after the steps of a run that starts in the given state. -/
def endState (state : IndentState) (steps : List IndentStep) : IndentState :=
  (steps.getLast?.map IndentStep.next).getD state

/-- The state after a step is where the next steps start. -/
theorem end_state_cons (state : IndentState) (step : IndentStep) (steps : List IndentStep) :
    endState state (step :: steps) = endState step.next steps := by
  rw [endState, List.getLast?_cons, endState]
  cases steps.getLast? <;> rfl

/-- Runs follow each other. -/
theorem run_append (dialect : Dialect) (state : IndentState) (first second : List (List Char × Bool)) :
    run dialect state (first ++ second) =
      run dialect state first ++ run dialect (endState state (run dialect state first)) second := by
  induction first generalizing state with
  | nil => rfl
  | cons line first ih =>
      simp only [List.cons_append, run, ih, end_state_cons]

/-- The run over stripped lines, each with whether it ends inside a comment. -/
def runStripped (dialect : Dialect) (state : IndentState) (lines : List Comment.StrippedLine) :
    List IndentStep :=
  run dialect state (lines.map fun line => (line.raw, line.after == .inside))

/-- What the machine says about the lines of a layout: their places, and the state after them. -/
theorem Reads.run_places {placed : List PlacedLine}
    (h : Reads dialect comment state placed last final)
    {lines : List (List Char)} (hlines : List.Forall₂ Ends lines (placed.map PlacedLine.body)) :
    let steps := runStripped dialect state (Comment.stripLines dialect comment lines)
    steps.map IndentStep.checked = placed.map PlacedLine.place ∧ endState state steps = final := by
  induction h generalizing lines with
  | nil =>
      cases hlines
      exact ⟨rfl, rfl⟩
  | @cons comment next last state after final line rest hcomment hstep _ ih =>
      cases hlines with
      | @cons first _ others _ hfirst hothers =>
          obtain ⟨hplaces, hend⟩ := ih hothers
          have hnext : (Comment.strip dialect comment first).1 = next := by
            rw [Comment.strip_state_of_ends hfirst, hcomment]
          have hafter : state.step dialect first (next == .inside) = ⟨after, line.place⟩ := by
            rw [IndentState.step_of_ends hfirst, hstep]
          have hsteps : runStripped dialect state
                (Comment.stripLines dialect comment (first :: others)) =
              ⟨after, line.place⟩ ::
                runStripped dialect after (Comment.stripLines dialect next others) := by
            simp only [runStripped, Comment.stripLines, List.map_cons, run, hnext, hafter]
          rw [hsteps]
          exact ⟨congrArg (line.place :: ·) hplaces, (end_state_cons _ _ _).trans hend⟩

end Reads

/-! ## Printing placed lines -/

/-- The lines are read as `Reads` says, each keeps its place, and none of them is broken. -/
structure Prints (config : IndentConfig) (dialect : Dialect) (comment : CommentState)
    (state : IndentState) (placed : List PlacedLine) (last : CommentState) (final : IndentState) :
    Prop where
  reads : Reads dialect comment state placed last final
  keeps : ∀ line ∈ placed, isFlagged config line.body line.place = false
  unbroken : ∀ line ∈ placed, '\n' ∉ line.body

namespace Prints

variable {config : IndentConfig} {dialect : Dialect} {comment next last : CommentState}
  {state after final : IndentState}

/-- No lines. -/
theorem nil : Prints config dialect comment state [] comment state :=
  ⟨.nil, by simp, by simp⟩

/-- A single line. -/
theorem single {line : PlacedLine} (hflagged : isFlagged config line.body line.place = false)
    (hbody : '\n' ∉ line.body) (hcomment : (Comment.strip dialect comment line.body).1 = next)
    (hstep : state.step dialect line.body (next == .inside) = ⟨after, line.place⟩) :
    Prints config dialect comment state [line] next after :=
  ⟨.cons hcomment hstep .nil, by simpa using hflagged, by simpa using hbody⟩

/-- A single indented line: neither state sees its indentation. -/
theorem indented {text : List Char} {depth : Nat} (hflush : leading text = [])
    (hbody : '\n' ∉ text) (hcomment : (Comment.strip dialect comment text).1 = next)
    (hstep : state.step dialect text (next == .inside) = ⟨after, some depth⟩) :
    Prints config dialect comment state [placedAt config depth text] next after := by
  have hcontent := content_indented config depth text
  refine .single (is_flagged_indented hflush config depth) (not_mem_indented hbody depth) ?_ ?_
  · rw [← hcomment]
    exact eq_of_content (fun line => (Comment.strip dialect comment line).1)
      (fun _ hc => Comment.strip_state_cons hc dialect comment) hcontent
  · rw [placedAt, ← hstep]
    exact eq_of_content (fun line => state.step dialect line (next == .inside))
      (fun _ hc line => IndentState.step_cons hc dialect state line _) hcontent

/-- Layouts are printed one after the other. -/
theorem append {first second : List PlacedLine}
    (h : Prints config dialect comment state first next after)
    (hsecond : Prints config dialect next after second last final) :
    Prints config dialect comment state (first ++ second) last final :=
  ⟨h.reads.append hsecond.reads, List.forall_mem_append.mpr ⟨h.keeps, hsecond.keeps⟩,
    List.forall_mem_append.mpr ⟨h.unbroken, hsecond.unbroken⟩⟩

end Prints

/-! ## Clean texts -/

/-- A line that keeps its place is at least as long as its indentation. -/
theorem is_too_long_of_kept {config : IndentConfig} {body : List Char} {place : Option Nat}
    (hflagged : isFlagged config body place = false) (hlength : body.length ≤ maxLength) :
    isTooLong config body place = false := by
  cases place with
  | none => rfl
  | some depth =>
      cases hblank : isBlankText body with
      | true => simp [isTooLong, hblank]
      | false =>
          have hagrees : agrees config body depth = true := by
            simpa [isFlagged, hblank] using hflagged
          have hexpected : (leading body).length = expectedLength config depth := by
            simpa using (Bool.and_eq_true_iff.mp hagrees).1
          have hle : (leading body).length ≤ body.length :=
            (List.takeWhile_sublist _).length_le
          simp only [isTooLong, hblank, Bool.not_false, Bool.true_and, decide_eq_false_iff_not]
          omega

/-- Every line of a text with its step is one of the lines that the text is made of, apart from its
end, with its place. -/
theorem mem_zip_steps {placed : List PlacedLine} {lines : List (List Char)}
    (hlines : List.Forall₂ Ends lines (placed.map PlacedLine.body)) {steps : List IndentStep}
    (hsteps : steps.map IndentStep.checked = placed.map PlacedLine.place) :
    ∀ pair ∈ lines.zip steps, ∃ line ∈ placed, Ends pair.1 line.body ∧
      pair.2.checked = line.place := by
  induction placed generalizing lines steps with
  | nil => simp_all
  | cons line rest ih =>
      cases hlines with
      | cons hfirst hothers =>
          cases steps with
          | nil => simp at hsteps
          | cons step steps =>
              simp only [List.map_cons, List.cons.injEq] at hsteps
              rw [List.zip_cons_cons, List.forall_mem_cons]
              refine ⟨⟨line, List.mem_cons_self, hfirst, hsteps.1⟩, ?_⟩
              intro pair hpair
              obtain ⟨other, hother, hagrees⟩ := ih hothers hsteps.2 pair hpair
              exact ⟨other, List.mem_cons_of_mem _ hother, hagrees⟩

/-- What comes out for a text made of lines that are printed as they should be: the lines should
stand at their places, nothing is flagged, and no line asks for an indentation that cannot be
spelled out, unless the text is too long itself. -/
theorem Prints.clean {config : IndentConfig} {dialect : Dialect} {comment last : CommentState}
    {state final : IndentState} {placed : List PlacedLine}
    (h : Prints config dialect comment state placed last final) (ended : Bool) :
    let text := ofBodies ended (placed.map PlacedLine.body)
    let lines := splitLines text
    let steps := runStripped dialect state (Comment.stripLines dialect comment lines)
    steps.map IndentStep.checked = placed.map PlacedLine.place ∧
      endState state steps = final ∧
      flaggedFrom config 0 (lines.zip steps) = [] ∧
      (text.length ≤ maxLength → ((lines.zip steps).any fun (line, step) =>
        isTooLong config line step.checked) = false) := by
  intro text lines steps
  have hlines : List.Forall₂ Ends lines (placed.map PlacedLine.body) := by
    refine split_lines_of_bodies ended ?_
    simpa using h.unbroken
  obtain ⟨hplaces, hend⟩ := h.reads.run_places hlines
  have hpairs := mem_zip_steps hlines hplaces
  refine ⟨hplaces, hend, flagged_from_eq_nil (fun pair hpair => ?_) 0, fun hlength => ?_⟩
  · obtain ⟨line, hline, hends, hchecked⟩ := hpairs pair hpair
    rw [hchecked, (checks_alike_of_ends hends config line.place).1]
    exact h.keeps line hline
  · rw [List.any_eq_false]
    intro pair hpair
    obtain ⟨line, hline, hends, hchecked⟩ := hpairs pair hpair
    have hshort : line.body.length ≤ maxLength := by
      have hpairLength := length_le_of_mem_split_lines (List.of_mem_zip hpair).1
      obtain ⟨-, terminator, -, hpairLine⟩ := hends
      rw [hpairLine, List.length_append] at hpairLength
      omega
    simp [hchecked, (checks_alike_of_ends hends config line.place).2,
      is_too_long_of_kept (h.keeps line hline) hshort]

end Indentation

namespace Inspection

open Indentation Comment

/-- A file made of lines that are printed as they should be is clean. -/
theorem misindented_of_prints {config : IndentConfig} {dialect : Dialect} {placed : List PlacedLine}
    {last : CommentState} {final : IndentState}
    (h : Prints config dialect .outside {} placed last final) (ended : Bool) :
    let text := ofBodies ended (placed.map PlacedLine.body)
    misindented config dialect (stripLines dialect .outside (splitLines text)) = .ok [] ∨
      maxLength < text.length := by
  intro text
  obtain ⟨-, -, hflagged, hlong⟩ := h.clean ended
  rcases Nat.lt_or_ge maxLength text.length with hlength | hlength
  · exact .inr hlength
  · refine .inl ?_
    rw [misindented, strip_lines_raw]
    exact (if_neg (by rw [Bool.not_eq_true]; exact hlong hlength)).trans (congrArg _ hflagged)

end Inspection

end ChannelLint
