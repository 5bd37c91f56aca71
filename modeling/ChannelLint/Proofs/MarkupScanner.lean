import ChannelLint.Proofs.Stripping

/-!
# Markup comments in one pass

`scanMarkup` reads a whole text from left to right and keeps what stands outside comments, and the
line feeds inside them. The main theorem, `strip_lines_eq_scan`, says that stripping line by line
does the same, state at the end included, for a text in which no opening mark follows directly on
the first characters of another. The condition is there because a comment that is taken out of a
line leaves its neighbours side by side: without it they can make up a mark of their own.
-/

namespace ChannelLint.Comment

open Text

/-- Reads a text from the given state on: the state after it, and the characters that are kept. -/
def scanMarkup : CommentState → List Char → CommentState × List Char
  | state, [] => (state, [])
  | .outside, '<' :: '!' :: '-' :: '-' :: rest => scanMarkup .inside rest
  | .outside, c :: rest =>
      let (last, kept) := scanMarkup .outside rest
      (last, c :: kept)
  | .inside, '-' :: '-' :: '>' :: rest => scanMarkup .outside rest
  | .inside, c :: rest =>
      let (last, kept) := scanMarkup .inside rest
      (last, if c == '\n' then c :: kept else kept)

/-- No opening mark follows directly on the first characters of another. -/
def OpensApart (text : List Char) : Prop :=
  ∀ part ∈ [['<'], ['<', '!'], ['<', '!', '-']], ¬ (part ++ openMark) <:+: text

instance (text : List Char) : Decidable (OpensApart text) :=
  inferInstanceAs (Decidable (∀ part ∈ _, _))

/-- A part of such a text is such a text. -/
theorem OpensApart.of_part {part text : List Char} (h : OpensApart text) (hpart : part <:+: text) :
    OpensApart part :=
  fun mark hmark hinside => h mark hmark (hinside.trans hpart)

/-! ## Single steps -/

/-- A text starts with the opening mark if its characters are those of the mark. -/
theorem open_mark_initial_iff {c : Char} {rest : List Char} :
    openMark <+: c :: rest ↔ c = '<' ∧ ∃ after, rest = '!' :: '-' :: '-' :: after := by
  constructor
  · rintro ⟨after, heq⟩
    cases heq
    exact ⟨rfl, after, rfl⟩
  · rintro ⟨rfl, after, rfl⟩
    exact ⟨after, rfl⟩

/-- A text starts with the closing mark if its characters are those of the mark. -/
theorem close_mark_initial_iff {c : Char} {rest : List Char} :
    closeMark <+: c :: rest ↔ c = '-' ∧ ∃ after, rest = '-' :: '>' :: after := by
  constructor
  · rintro ⟨after, heq⟩
    cases heq
    exact ⟨rfl, after, rfl⟩
  · rintro ⟨rfl, after, rfl⟩
    exact ⟨after, rfl⟩

/-- A text that the patterns for the opening mark refuse does not start with it. -/
theorem not_open_mark_initial {c : Char} {rest : List Char}
    (h : ∀ after, c = '<' → rest = '!' :: '-' :: '-' :: after → False) :
    ¬ openMark <+: c :: rest := by
  rw [open_mark_initial_iff]
  rintro ⟨hc, after, hrest⟩
  exact h after hc hrest

/-- A text that the patterns for the closing mark refuse does not start with it. -/
theorem not_close_mark_initial {c : Char} {rest : List Char}
    (h : ∀ after, c = '-' → rest = '-' :: '>' :: after → False) :
    ¬ closeMark <+: c :: rest := by
  rw [close_mark_initial_iff]
  rintro ⟨hc, after, hrest⟩
  exact h after hc hrest

/-- Outside comments a character that starts no mark is kept. -/
theorem scan_markup_keep {c : Char} {rest : List Char} (h : ¬ openMark <+: c :: rest) :
    scanMarkup .outside (c :: rest) =
      ((scanMarkup .outside rest).1, c :: (scanMarkup .outside rest).2) := by
  rw [scanMarkup]
  intro after hc hrest
  exact h (open_mark_initial_iff.mpr ⟨hc, after, hrest⟩)

/-- Inside a comment a character that starts no mark is dropped unless it is a line feed. -/
theorem scan_markup_drop {c : Char} {rest : List Char} (h : ¬ closeMark <+: c :: rest) :
    scanMarkup .inside (c :: rest) =
      ((scanMarkup .inside rest).1,
        if c == '\n' then c :: (scanMarkup .inside rest).2 else (scanMarkup .inside rest).2) := by
  rw [scanMarkup]
  intro after hc hrest
  exact h (close_mark_initial_iff.mpr ⟨hc, after, hrest⟩)

/-- A character that starts no mark stays in a line without its comments. -/
theorem drop_inline_keep {c : Char} {rest : List Char} (h : ¬ openMark <+: c :: rest) :
    dropInline false (c :: rest) = c :: dropInline false rest := by
  rw [dropInline]
  intro after hc hrest
  exact h (open_mark_initial_iff.mpr ⟨hc, after, hrest⟩)

/-! ## The end of a line -/

/-- A mark without line feeds at the start of a line and what follows stands within the line. -/
theorem mark_initial_of_append {mark body rest : List Char} (hmark : '\n' ∉ mark)
    (h : mark <+: body ++ '\n' :: rest) : mark <+: body := by
  have hline : body ++ ['\n'] <+: body ++ '\n' :: rest := ⟨rest, by simp⟩
  rcases List.prefix_or_prefix_of_prefix h hline with hshort | hlong
  · rcases List.prefix_concat_iff.mp hshort with rfl | hbody
    · exact absurd (by simp) hmark
    · exact hbody
  · exact absurd (hlong.subset (by simp)) hmark

/-- A line feed is kept in either state. -/
theorem scan_markup_feed (state : CommentState) (rest : List Char) :
    scanMarkup state ('\n' :: rest) =
      ((scanMarkup state rest).1, '\n' :: (scanMarkup state rest).2) := by
  cases state <;> rfl

/-- Lines are read one after the other. -/
theorem scan_markup_append {body : List Char} (state : CommentState) (rest : List Char)
    (hbody : '\n' ∉ body) :
    scanMarkup state (body ++ '\n' :: rest) =
      ((scanMarkup (scanMarkup state body).1 rest).1,
        (scanMarkup state body).2 ++ '\n' :: (scanMarkup (scanMarkup state body).1 rest).2) := by
  -- no mark reaches over the line feed, so the body is read as if nothing followed
  fun_induction scanMarkup state body with
  | case1 state => exact scan_markup_feed state rest
  | case2 after ih => exact ih (by simp_all)
  | case3 c body hopen last kept hscan ih =>
      have hstart : ¬ openMark <+: c :: (body ++ '\n' :: rest) := fun hmark =>
        not_open_mark_initial hopen (mark_initial_of_append (by decide) hmark)
      rw [List.cons_append, scan_markup_keep hstart, ih (List.not_mem_of_not_mem_cons hbody), hscan]
      rfl
  | case4 after ih => exact ih (by simp_all)
  | case5 c body hclose last kept hscan ih =>
      have hstart : ¬ closeMark <+: c :: (body ++ '\n' :: rest) := fun hmark =>
        not_close_mark_initial hclose (mark_initial_of_append (by decide) hmark)
      have hc : c ≠ '\n' := (List.ne_of_not_mem_cons hbody).symm
      rw [List.cons_append, scan_markup_drop hstart, ih (List.not_mem_of_not_mem_cons hbody), hscan]
      simp [hc]

/-! ## One line -/

/-- A comment that does not end on a line drops all of the line. -/
theorem scan_markup_unclosed {body : List Char} (hbody : '\n' ∉ body)
    (h : splitOnce closeMark body = none) : scanMarkup .inside body = (.inside, []) := by
  induction body with
  | nil => rfl
  | cons c body ih =>
      simp only [splitOnce] at h
      split at h
      case isTrue => cases h
      case isFalse hclose =>
          rw [List.isPrefixOf_iff_prefix] at hclose
          have hc : c ≠ '\n' := (List.ne_of_not_mem_cons hbody).symm
          rw [scan_markup_drop hclose,
            ih (List.not_mem_of_not_mem_cons hbody) (Option.map_eq_none_iff.mp h)]
          simp [hc]

/-- A comment that ends on a line drops the line up to its end. -/
theorem scan_markup_closed {body before after : List Char} (hbody : '\n' ∉ body)
    (h : splitOnce closeMark body = some (before, after)) :
    scanMarkup .inside body = scanMarkup .outside after := by
  induction body generalizing before with
  | nil => cases h
  | cons c body ih =>
      simp only [splitOnce] at h
      split at h
      case isTrue hclose =>
          obtain ⟨rfl, tail, rfl⟩ :=
            close_mark_initial_iff.mp (List.isPrefixOf_iff_prefix.mp hclose)
          cases h
          rfl
      case isFalse hclose =>
          rw [List.isPrefixOf_iff_prefix] at hclose
          obtain ⟨⟨early, late⟩, hrest, heq⟩ := Option.map_eq_some_iff.mp h
          cases heq
          have hc : c ≠ '\n' := (List.ne_of_not_mem_cons hbody).symm
          rw [scan_markup_drop hclose, ih (List.not_mem_of_not_mem_cons hbody) hrest]
          simp [hc]

/-- A character that does not start the closing mark is passed over unless it ends the line. -/
theorem closes_in_line_cons {c : Char} {rest : List Char} (h : ¬ closeMark <+: c :: rest) :
    closesInLine (c :: rest) = (c != '\n' && closesInLine rest) := by
  rw [closesInLine]
  intro after hc hrest
  exact h (close_mark_initial_iff.mpr ⟨hc, after, hrest⟩)

/-- On a line, a closing mark follows exactly if there is one to split at. -/
theorem closes_in_line_eq {body : List Char} (hbody : '\n' ∉ body) :
    closesInLine body = (splitOnce closeMark body).isSome := by
  fun_induction closesInLine body with
  | case1 after => rfl
  | case2 c body hclose ih =>
      have hc : c ≠ '\n' := (List.ne_of_not_mem_cons hbody).symm
      rw [splitOnce, if_neg (mt List.isPrefixOf_iff_prefix.mp (not_close_mark_initial hclose)),
        ih (List.not_mem_of_not_mem_cons hbody)]
      simp [hc]
  | case3 => rfl

/-- The first character of a line without its comments, if the line starts with none, is that of
the line. -/
theorem drop_inline_eq_cons {c : Char} {body kept : List Char} (hopen : ¬ openMark <+: body)
    (h : c :: kept = dropInline false body) :
    ∃ rest, body = c :: rest ∧ kept = dropInline false rest := by
  cases body with
  | nil => cases h
  | cons d rest =>
      rw [drop_inline_keep hopen] at h
      cases h
      exact ⟨rest, rfl, rfl⟩

/-- Taking out comments makes up no new opening mark at the start of a line. -/
theorem open_mark_of_drop_inline {c : Char} {body : List Char} (hapart : OpensApart (c :: body))
    (h : openMark <+: c :: dropInline false body) : openMark <+: c :: body := by
  obtain ⟨rfl, kept, hkept⟩ := open_mark_initial_iff.mp h
  have hapart' : ∀ part ∈ [['<'], ['<', '!'], ['<', '!', '-']], ∀ rest,
      '<' :: body = part ++ rest → ¬ openMark <+: rest := by
    intro part hpart rest heq hmark
    refine hapart part hpart (List.IsPrefix.isInfix ?_)
    rw [heq]
    exact (List.prefix_append_right_inj part).mpr hmark
  -- the three characters after the first one are characters of the line, one after the other
  obtain ⟨first, rfl, hfirst⟩ := drop_inline_eq_cons (hapart' ['<'] (by simp) _ rfl) hkept.symm
  obtain ⟨second, rfl, hsecond⟩ :=
    drop_inline_eq_cons (hapart' ['<', '!'] (by simp) _ rfl) hfirst
  obtain ⟨third, rfl, _⟩ :=
    drop_inline_eq_cons (hapart' ['<', '!', '-'] (by simp) _ rfl) hsecond
  exact ⟨third, rfl⟩

/-- A line cut at its first opening mark, with the state after it. -/
def cutOpen (kept : List Char) : CommentState × List Char :=
  match splitOnce openMark kept with
  | some (before, _) => (.inside, before)
  | none => (.outside, kept)

/-- A character that starts no mark stays in front of the cut. -/
theorem cut_open_cons {c : Char} {kept : List Char} (h : ¬ openMark <+: c :: kept) :
    cutOpen (c :: kept) = ((cutOpen kept).1, c :: (cutOpen kept).2) := by
  rw [cutOpen, splitOnce, if_neg (mt List.isPrefixOf_iff_prefix.mp h), cutOpen]
  cases splitOnce openMark kept <;> rfl

/-- A line outside comments is stripped by cutting what is left without its comments. -/
theorem strip_markup_outside_eq (body terminator : List Char) :
    stripMarkupOutside body terminator =
      ((cutOpen (dropInline false body)).1, (cutOpen (dropInline false body)).2 ++ terminator) := by
  simp only [stripMarkupOutside, cutOpen]
  cases splitOnce openMark (dropInline false body) <;> rfl

/-- Taking comments out of a line and cutting it at an opening mark that stays does what reading it
does, in either state. -/
theorem cut_open_drop_inline {inComment : Bool} {body : List Char} (hbody : '\n' ∉ body)
    (hapart : OpensApart body) (hcloses : inComment = true → closesInLine body = true) :
    cutOpen (dropInline inComment body) =
      scanMarkup (if inComment then .inside else .outside) body := by
  fun_induction dropInline inComment body with
  | case1 inComment =>
      cases inComment with
      | false => rfl
      | true => cases hcloses rfl
  | case2 after ih =>
      have hsuffix : after <:+ '-' :: '-' :: '>' :: after := ⟨['-', '-', '>'], rfl⟩
      exact ih (fun hmem => hbody (hsuffix.subset hmem)) (hapart.of_part hsuffix.isInfix) (by simp)
  | case3 c rest hclose ih =>
      have hsuffix : rest <:+ c :: rest := List.suffix_cons c rest
      have hc : c ≠ '\n' := (List.ne_of_not_mem_cons hbody).symm
      have hclose : ¬ closeMark <+: c :: rest := not_close_mark_initial hclose
      have hrest : closesInLine rest = true := by
        rw [closes_in_line_cons hclose] at hcloses
        exact (Bool.and_eq_true_iff.mp (hcloses rfl)).2
      rw [ih (fun hmem => hbody (hsuffix.subset hmem)) (hapart.of_part hsuffix.isInfix)
        fun _ => hrest]
      simp [scan_markup_drop hclose, hc]
  | case4 after hends ih =>
      have hsuffix : after <:+ '<' :: '!' :: '-' :: '-' :: after := ⟨['<', '!', '-', '-'], rfl⟩
      exact ih (fun hmem => hbody (hsuffix.subset hmem)) (hapart.of_part hsuffix.isInfix)
        fun _ => hends
  | case5 after hends ih =>
      -- the cut is made at the mark that stays, and the rest of the line is in the comment
      have hunclosed : splitOnce closeMark after = none := by
        rw [closes_in_line_eq (by simp_all)] at hends
        simpa using hends
      exact (scan_markup_unclosed (by simp_all) hunclosed).symm
  | case6 c rest hopen ih =>
      have hsuffix : rest <:+ c :: rest := List.suffix_cons c rest
      have hopen : ¬ openMark <+: c :: rest := not_open_mark_initial hopen
      have hopen' : ¬ openMark <+: c :: dropInline false rest :=
        fun hmark => hopen (open_mark_of_drop_inline hapart hmark)
      rw [cut_open_cons hopen', ih (fun hmem => hbody (hsuffix.subset hmem))
        (hapart.of_part hsuffix.isInfix) (by simp)]
      exact (scan_markup_keep hopen).symm

/-- Stripping a line does what reading it does, in either state. -/
theorem strip_markup_eq_scan {body terminator : List Char} (state : CommentState)
    (hbody : '\n' ∉ body) (hterminator : IsTerminator terminator) (hapart : OpensApart body) :
    stripMarkup state (body ++ terminator) =
      ((scanMarkup state body).1, (scanMarkup state body).2 ++ terminator) := by
  -- the part of the line outside comments is all of it, or what follows the end of a comment
  have houtside : ∀ rest, rest <:+ body → stripMarkupOutside rest terminator =
      ((scanMarkup .outside rest).1, (scanMarkup .outside rest).2 ++ terminator) := by
    intro rest hrest
    have hscan : cutOpen (dropInline false rest) = scanMarkup .outside rest :=
      cut_open_drop_inline (fun hmem => hbody (hrest.subset hmem))
        (hapart.of_part hrest.isInfix) (by simp)
    rw [strip_markup_outside_eq, hscan]
  simp only [stripMarkup, split_terminator_append hbody hterminator]
  cases state with
  | outside => exact houtside body (List.suffix_refl body)
  | inside =>
      cases hsplit : splitOnce closeMark body with
      | none => rw [scan_markup_unclosed hbody hsplit]; rfl
      | some parts =>
          have hsuffix : parts.2 <:+ body := ⟨_, (split_once_append hsplit).symm⟩
          rw [scan_markup_closed hbody hsplit]
          exact houtside parts.2 hsuffix

/-! ## Files -/

/-- The state after stripped lines, from the state before them. -/
def lastState (state : CommentState) (lines : List StrippedLine) : CommentState :=
  (lines.getLast?.map StrippedLine.after).getD state

/-- The state after a line is where the next lines start. -/
theorem last_state_cons (state : CommentState) (line : StrippedLine) (lines : List StrippedLine) :
    lastState state (line :: lines) = lastState line.after lines := by
  rw [lastState, List.getLast?_cons, lastState]
  cases lines.getLast? <;> rfl

/-- Stripping rows one after the other does what reading their concatenation does. -/
theorem strip_rows_eq_scan {lines : List (List Char)} (state : CommentState) (h : Rows lines)
    (hapart : OpensApart lines.flatten) :
    (lastState state (stripLines .markup state lines),
      withoutComments (stripLines .markup state lines)) = scanMarkup state lines.flatten := by
  induction h generalizing state with
  | nil => cases state <;> rfl
  | @last body hbody =>
      rw [List.flatten_singleton] at hapart ⊢
      have hline := strip_markup_eq_scan state hbody (.inl rfl) hapart
      rw [List.append_nil, List.append_nil] at hline
      simp [stripLines, strip, hline, lastState, withoutComments]
  | @cons body rest hbody hrest ih =>
      rw [List.flatten_cons] at hapart ⊢
      have hfirst : OpensApart body :=
        hapart.of_part ⟨[], ['\n'] ++ rest.flatten, by simp⟩
      have hothers : OpensApart rest.flatten :=
        hapart.of_part (List.suffix_append _ _).isInfix
      have hline := strip_markup_eq_scan state hbody (.inr rfl) hfirst
      have hlines := ih (scanMarkup state body).1 hothers
      rw [List.append_assoc, List.singleton_append, scan_markup_append state _ hbody, ← hlines]
      simp [stripLines, strip, hline, last_state_cons, withoutComments]

/-- Stripping the lines of a markup text does what one pass over the text does: what is left are
the characters that the pass keeps, and both end in the same state. -/
theorem strip_lines_eq_scan {text : List Char} (hapart : OpensApart text) :
    withoutComments (stripLines .markup .outside (splitLines text)) =
        (scanMarkup .outside text).2 ∧
      finalState (stripLines .markup .outside (splitLines text)) =
        (scanMarkup .outside text).1 := by
  have hflatten := split_lines_flatten text
  have hrows := strip_rows_eq_scan .outside (split_lines_rows text) (by rwa [hflatten])
  rw [hflatten] at hrows
  exact ⟨congrArg Prod.snd hrows, congrArg Prod.fst hrows⟩

/-- Two comments on a line with a new one behind them, a mark that overlaps itself, and a comment
that is still open at the end. -/
theorem strip_lines_eq_scan_nested :
    OpensApart "a<!-- b --> c <!-->\n-->d<!--e\nf".toList ∧
      withoutComments (stripLines .markup .outside
          (splitLines "a<!-- b --> c <!-->\n-->d<!--e\nf".toList)) = "a c \nd\n".toList ∧
      finalState (stripLines .markup .outside
          (splitLines "a<!-- b --> c <!-->\n-->d<!--e\nf".toList)) = .inside := by
  have hapart : OpensApart "a<!-- b --> c <!-->\n-->d<!--e\nf".toList := by decide +kernel
  exact ⟨hapart, (strip_lines_eq_scan hapart).1.trans (by decide +kernel),
    (strip_lines_eq_scan hapart).2.trans (by decide +kernel)⟩

end ChannelLint.Comment
