import ChannelLint.Proofs.LineBreaks

/-!
# Tags beside comments

The depth machine takes comments out of markup lines on its own. `visible` says what of a line it
looks at; `step_outside` and `step_inside` say what it does with that. A line that starts outside
comments is read as the stripped line is. Behind the end of a comment, however, only whole tags are
counted, and not even these if another comment is open at the end of the line; `ReadsTail` says when
that makes no difference. Then the machine has the same depths on the raw lines as on the stripped
ones: `Inspection.depths_eq_of_tails`. A tag between two comments is lost:
`Inspection.tag_between_comments`.
-/

namespace ChannelLint

open Text

/-! ## What the machine looks at -/

namespace Comment

/-- What is left of a markup line, and the state after it, as the depth machine sees it: without the
line breaks at its end. -/
def visible (state : CommentState) (line : List Char) : CommentState × List Char :=
  match state with
  | .outside => cutOpen (dropInline false (dropBreaks line))
  | .inside =>
      match splitOnce closeMark (dropBreaks line) with
      | some (_, tail) => cutOpen (dropInline false tail)
      | none => (.inside, [])

/-- Stripping a line and the depth machine leave the same of it, but for line breaks at its end. -/
theorem strip_visible (state : CommentState) {line body : List Char} (h : Ends line body) :
    (strip .markup state line).1 = (visible state line).1 ∧
      dropBreaks (strip .markup state line).2 = dropBreaks (visible state line).2 := by
  obtain ⟨hbody, terminator, hterminator, rfl⟩ := h
  have hbreaks : ∀ rest breaks, IsBreaks breaks →
      (stripMarkupOutside (rest ++ breaks) terminator).1 = (cutOpen (dropInline false rest)).1 ∧
        dropBreaks (stripMarkupOutside (rest ++ breaks) terminator).2 =
          dropBreaks (cutOpen (dropInline false rest)).2 := by
    intro rest breaks hbreaks
    rw [strip_markup_outside_eq, drop_inline_append_breaks hbreaks rest (by simp)]
    have hcut := cut_open_append_breaks hbreaks (dropInline false rest)
    exact ⟨hcut.1, (drop_breaks_append _ hterminator).trans hcut.2⟩
  obtain ⟨breaks, hline, heq⟩ := exists_breaks body
  simp only [strip, stripMarkup, split_terminator_append hbody hterminator, visible,
    drop_breaks_append body hterminator]
  generalize dropBreaks body = kept at heq ⊢
  subst heq
  cases state with
  | outside => exact hbreaks kept breaks hline
  | inside =>
      have hsplit : splitOnce closeMark (kept ++ breaks) = _ :=
        split_once_append_breaks hline (by decide) (by decide) kept
      rw [hsplit]
      cases splitOnce closeMark kept with
      | none => exact ⟨rfl, drop_breaks_append [] hterminator⟩
      | some parts => exact hbreaks parts.2 breaks hline

/-- What does not see line breaks at the end sees the same in a stripped line as in what the depth
machine looks at. -/
theorem strip_visible_same {state : CommentState} {line body : List Char} (h : Ends line body)
    {α : Sort*} {f : List Char → α}
    (hf : ∀ text breaks, IsBreaks breaks → f (text ++ breaks) = f text) :
    f (strip .markup state line).2 = f (visible state line).2 := by
  rw [← apply_drop_breaks hf, (strip_visible state h).2, apply_drop_breaks hf]

/-- What stands in front of the cut is a first part of the line. -/
theorem cut_open_initial (kept : List Char) : (cutOpen kept).2 <+: kept := by
  rw [cutOpen]
  cases hsplit : splitOnce openMark kept with
  | none => exact List.prefix_refl kept
  | some parts => exact ⟨openMark ++ parts.2, by rw [split_once_append hsplit, List.append_assoc]⟩

/-- No comment opens in front of the cut. -/
theorem no_open_mark_cut_open (kept : List Char) : ¬ openMark <:+: (cutOpen kept).2 := by
  induction kept with
  | nil => decide
  | cons c kept ih =>
      by_cases hstart : openMark <+: c :: kept
      · rw [cutOpen, splitOnce, if_pos (List.isPrefixOf_iff_prefix.mpr hstart)]
        show ¬ openMark <:+: []
        decide
      · rw [cut_open_cons hstart, List.infix_cons_iff, not_or]
        refine ⟨fun hmark => hstart (hmark.trans ?_), ih⟩
        exact (List.prefix_cons_inj c).mpr (cut_open_initial kept)

/-- No comment opens in what the depth machine sees of a line. -/
theorem no_open_mark_visible (state : CommentState) (line : List Char) :
    ¬ openMark <:+: (visible state line).2 := by
  cases state with
  | outside => exact no_open_mark_cut_open _
  | inside =>
      rw [visible]
      cases splitOnce closeMark (dropBreaks line) with
      | none => decide
      | some parts => exact no_open_mark_cut_open _

/-- What stands in front of an angle bracket stands in front of the cut. -/
theorem cut_open_append {lead : List Char} (h : '<' ∉ lead) (rest : List Char) :
    (cutOpen (lead ++ rest)).2 = lead ++ (cutOpen rest).2 := by
  induction lead with
  | nil => rfl
  | cons c lead ih =>
      rw [List.mem_cons, not_or] at h
      have hstart : ¬ openMark <+: c :: (lead ++ rest) := fun hmark =>
        h.1 (open_mark_initial_iff.mp hmark).1.symm
      rw [List.cons_append, cut_open_cons hstart, ih h.2, List.cons_append]

end Comment

namespace Markup

open Comment

/-- A mark that a line starts with is left when comments are taken out of the line, if the mark has
only one angle bracket and starts no comment. -/
theorem mark_of_cut_open {marks text : List Char} (hmarks : '<' ∉ marks)
    (hopen : ∀ rest, ¬ openMark <+: '<' :: (marks ++ rest))
    (h : ('<' :: marks) <+: trimStart text) :
    ('<' :: marks) <:+: (cutOpen (dropInline false text)).2 := by
  obtain ⟨rest, hrest⟩ := h
  have hlead : '<' ∉ text.takeWhile isBlank := fun hmem => by
    cases List.mem_takeWhile_imp hmem
  have htext : text = text.takeWhile isBlank ++ '<' :: (marks ++ rest) := by
    rw [← List.cons_append, hrest, trimStart, List.takeWhile_append_dropWhile]
  rw [htext, drop_inline_append hlead, cut_open_append hlead, drop_inline_keep (hopen rest),
    drop_inline_append hmarks, cut_open_cons (hopen _), cut_open_append hmarks]
  exact ⟨text.takeWhile isBlank, (cutOpen (dropInline false rest)).2, by simp⟩

/-- The text has no mark of a declaration, of a processing instruction or of character data. -/
def Undeclared (text : List Char) : Prop :=
  ∀ mark ∈ ["<?".toList, "<!DOCTYPE".toList, dataOpen], ¬ mark <:+: text

instance (text : List Char) : Decidable (Undeclared text) :=
  inferInstanceAs (Decidable (∀ mark ∈ _, _))

/-- Line breaks at the end of a text declare nothing. -/
theorem undeclared_append_breaks (text : List Char) {breaks : List Char} (h : IsBreaks breaks) :
    Undeclared (text ++ breaks) = Undeclared text := by
  refine propext (forall₂_congr fun mark hmark => not_congr ?_)
  have hfit : ('\r' ∉ mark ∧ '\n' ∉ mark) ∧ mark ≠ [] := by
    revert mark
    decide
  rw [← occurs_in_iff, ← occurs_in_iff, occurs_in_append_breaks h hfit.1 hfit.2]

/-- A part of an undeclared text is undeclared. -/
theorem Undeclared.of_part {part text : List Char} (h : Undeclared text) (hpart : part <:+: text) :
    Undeclared part :=
  fun mark hmark hmarked => h mark hmark (hmarked.trans hpart)

/-- A text that starts with the mark of a declaration is not undeclared. -/
theorem Undeclared.not_declaration {text : List Char} (h : Undeclared text) :
    isDeclaration text = false := by
  rw [isDeclaration, Bool.or_eq_false_iff, ← Bool.not_eq_true, ← Bool.not_eq_true]
  exact ⟨fun hmark => h _ (by simp) (IndentState.infix_of_starts_with hmark),
    fun hmark => h _ (by simp) (IndentState.infix_of_starts_with hmark)⟩

/-- A line that is undeclared without its comments is no declaration with them. -/
theorem not_declaration_of_cut_open {text : List Char}
    (h : Undeclared (cutOpen (dropInline false text)).2) : isDeclaration text = false := by
  have hquestion : ['<', '?'] <+: trimStart text →
      ¬ Undeclared (cutOpen (dropInline false text)).2 :=
    fun hmark hnone => hnone ['<', '?'] (by decide)
      (mark_of_cut_open (by decide) (by rintro rest ⟨after, heq⟩; cases heq) hmark)
  have hdoctype : '<' :: "!DOCTYPE".toList <+: trimStart text →
      ¬ Undeclared (cutOpen (dropInline false text)).2 :=
    fun hmark hnone => hnone ('<' :: "!DOCTYPE".toList) (by decide)
      (mark_of_cut_open (by decide) (by rintro rest ⟨after, heq⟩; cases heq) hmark)
  rw [isDeclaration, Bool.or_eq_false_iff, ← Bool.not_eq_true, ← Bool.not_eq_true,
    List.isPrefixOf_iff_prefix, List.isPrefixOf_iff_prefix]
  exact ⟨fun hmark => hquestion hmark h, fun hmark => hdoctype hmark h⟩

end Markup

/-! ## One line -/

namespace IndentState

open Markup Comment

/-- The state with no comment open. -/
def uncommented (state : IndentState) : IndentState :=
  { state with inComment := false }

/-- Reading tags has nothing to do with comments. -/
theorem step_tags_uncommented (state : IndentState) (inComment : Bool) (code : List Char) :
    (state.uncommented.stepTags code).next =
      ({ state with inComment := inComment }.stepTags code).next.uncommented := rfl

/-- No tag starts in the code, nor does one end. -/
def IsQuiet (state : IndentState) (code : List Char) : Prop :=
  '<' ∉ code ∧ (state.inTag = true → '>' ∉ code)

/-- The code consists of whole tags and of text, and an end tag in front has a level to close. -/
def HoldsTags (state : IndentState) (code : List Char) : Prop :=
  state.inTag = false ∧ endsInTag code = false ∧
    (startsWith ['<', '/'] code = true →
      0 < state.depth ∧ (tags code).head?.map Tag.closing = some true)

/-- Code behind the end of a comment that moves the depth as it would without the comment. -/
def ReadsTail (state : IndentState) (after : CommentState) (code : List Char) : Prop :=
  state.IsQuiet code ∨ after = .outside ∧ state.HoldsTags code

instance (state : IndentState) (code : List Char) : Decidable (state.IsQuiet code) :=
  inferInstanceAs (Decidable (_ ∧ _))

instance (state : IndentState) (code : List Char) : Decidable (state.HoldsTags code) :=
  inferInstanceAs (Decidable (_ ∧ _))

instance (state : IndentState) (after : CommentState) (code : List Char) :
    Decidable (state.ReadsTail after code) :=
  inferInstanceAs (Decidable (_ ∨ _))

/-- Line breaks at the end have no part in how the code behind a comment is read. -/
theorem reads_tail_append_breaks (state : IndentState) (after : CommentState) (code : List Char)
    {breaks : List Char} (h : IsBreaks breaks) :
    state.ReadsTail after (code ++ breaks) = state.ReadsTail after code := by
  have hopen : '<' ∈ code ++ breaks ↔ '<' ∈ code :=
    mem_append_breaks h (by decide) (by decide) code
  have hclose : '>' ∈ code ++ breaks ↔ '>' ∈ code :=
    mem_append_breaks h (by decide) (by decide) code
  have hlead : startsWith ['<', '/'] (code ++ breaks) = startsWith ['<', '/'] code :=
    starts_with_append_breaks h (by decide) code
  simp only [ReadsTail, IsQuiet, HoldsTags, hopen, hclose, hlead, ends_in_tag_append_breaks h,
    tags_append_breaks h]

/-- Quiet code leaves everything as it is. -/
theorem step_tags_quiet (state : IndentState) {code : List Char} (h : state.IsQuiet code) :
    (state.stepTags code).next = state := by
  obtain ⟨hopen, hclose⟩ := h
  have hdata : ¬ dataOpen <:+: code := fun hpart => hopen (hpart.subset (by decide))
  have hlead : startsWith ['<', '/'] code = false := by
    rw [← Bool.not_eq_true]
    exact fun hmark => hopen ((infix_of_starts_with hmark).subset (by simp))
  have hbalance : balance code = 0 := by rw [balance, tags_of_no_open hopen]; rfl
  cases htag : state.inTag with
  | false =>
      simp only [step_tags_outside state htag hdata, hlead, Bool.false_eq_true, ↓reduceIte,
        hbalance, ends_in_tag_of_no_open hopen, shift_zero]
      rw [← htag]
  | true =>
      have hangle : '>' ∉ code := hclose htag
      have hend : ∀ mark, '>' ∈ mark → startsWith mark code = false := by
        intro mark hmem
        rw [← Bool.not_eq_true]
        exact fun hmark => hangle ((infix_of_starts_with hmark).subset hmem)
      have hself : ['>', '/'].isPrefixOf (trimEnd code).reverse = false := by
        rw [← Bool.not_eq_true, List.isPrefixOf_iff_prefix]
        intro hmark
        refine hangle ((List.rdropWhile_prefix isBlank code).subset (List.mem_reverse.mp ?_))
        exact hmark.subset (by simp)
      rw [step_tags_inside state htag hdata hlead (hend _ (by simp)) (hend _ (by simp))]
      have hcontains : code.contains '>' = false := by simpa using hangle
      simp only [hself, hbalance, hcontains, Bool.false_eq_true, ↓reduceIte, shift_zero,
        Bool.not_false, Bool.and_true]
      rw [← htag]

/-- An end tag in front closes an element. -/
theorem balance_of_leading {code : List Char}
    (h : (tags code).head?.map Tag.closing = some true) :
    balance code = -1 + balanceAfterLeading code := by
  obtain ⟨tag, htag, hclosing⟩ := Option.map_eq_some_iff.mp h
  obtain ⟨rest, hrest⟩ := List.head?_eq_some_iff.mp htag
  simp [balance, balanceAfterLeading, hrest, Tag.balance, hclosing]

/-- Whole tags are counted alike in front of a comment and behind it. -/
theorem step_tags_counted (state : IndentState) {code : List Char} (h : state.HoldsTags code)
    (hdata : ¬ dataOpen <:+: code) :
    (state.stepTags code).next = (state.passTail code).next := by
  obtain ⟨htag, hfinished, hlead⟩ := h
  simp only [step_tags_outside state htag hdata, hfinished, Bool.false_eq_true, ↓reduceIte,
    passTail]
  cases hstart : startsWith ['<', '/'] code with
  | false => simp [htag]
  | true =>
      obtain ⟨hdepth, hfirst⟩ := hlead hstart
      have hshift : shift (state.depth - 1) (balanceAfterLeading code) =
          shift state.depth (balance code) := by
        rw [balance_of_leading hfirst, shift, shift]
        omega
      simp [htag, hshift]

/-- Code behind the end of a comment that is read alike is counted, or has nothing to count. -/
theorem step_tags_tail (state : IndentState) {after : CommentState} {code : List Char}
    (h : state.ReadsTail after code) (hcode : Undeclared code) :
    (state.stepTags code).next =
      if after = .outside then (state.passTail code).next else state := by
  rcases h with hquiet | ⟨rfl, hholds⟩
  · have hbalance : balance code = 0 := by rw [balance, tags_of_no_open hquiet.1]; rfl
    rw [step_tags_quiet state hquiet]
    split
    · simp only [passTail, hbalance, shift_zero]
    · rfl
  · rw [if_pos rfl, step_tags_counted state hholds (hcode dataOpen (by simp))]

/-- A blank is quiet. -/
theorem quiet_of_blank (state : IndentState) {code : List Char} (h : isBlankText code = true) :
    state.IsQuiet code := by
  have hblank := List.all_eq_true.mp h
  constructor
  · intro hmem
    cases hblank _ hmem
  · intro _ hmem
    cases hblank _ hmem

/-- The machine keeps whether a markup line ends inside a comment. -/
theorem step_markup_in_comment (state : IndentState) (line : List Char) (inComment : Bool) :
    (state.step .markup line inComment).next.inComment = inComment := by
  simp only [step, stepMarkup]
  repeat' split
  all_goals rfl

/-- A line that starts outside comments is read by the tags in front of where it is cut, unless
nothing but a comment is there. -/
theorem step_outside (state : IndentState) {line : List Char} (hcomment : state.inComment = false)
    (hdata : state.inData = false) (hdeclaration : isDeclaration (dropBreaks line) = false) :
    let here := { state with inComment := (visible .outside line).1 == .inside }
    state.step .markup line ((visible .outside line).1 == .inside) =
      if (visible .outside line).1 = .inside ∧ isBlankText (visible .outside line).2 then
        ⟨here, none⟩
      else here.stepTags (visible .outside line).2 := by
  simp only [step, stepMarkup, hcomment, hdata, hdeclaration, Bool.false_eq_true, ↓reduceIte,
    visible, cutOpen]
  cases splitOnce openMark (dropInline false (dropBreaks line)) with
  | none => simp
  | some parts => simp

/-- Of a line that starts in a comment and ends outside, the tags behind the comment count. -/
theorem step_inside (state : IndentState) {line : List Char} (hcomment : state.inComment = true) :
    let here := { state with inComment := (visible .inside line).1 == .inside }
    state.step .markup line ((visible .inside line).1 == .inside) =
      if (visible .inside line).1 = .outside then here.passTail (visible .inside line).2
      else ⟨here, none⟩ := by
  cases hclose : splitOnce closeMark (dropBreaks line) with
  | none =>
      have hvisible : visible .inside line = (.inside, []) := by simp only [visible, hclose]
      simp [step, stepMarkup, hcomment, hclose, hvisible]
  | some parts =>
      have hvisible : visible .inside line = cutOpen (dropInline false parts.2) := by
        simp only [visible, hclose]
      simp only [step, stepMarkup, hcomment, hclose, hvisible, ↓reduceIte, cutOpen]
      cases splitOnce openMark (dropInline false parts.2) with
      | none => simp
      | some cut => simp

/-- Reading tags where nothing is declared opens no character data and no comment. -/
theorem step_tags_keeps (state : IndentState) {code : List Char} (h : Undeclared code) :
    (state.stepTags code).next.inData = state.inData ∧
      (state.stepTags code).next.inComment = state.inComment := by
  have hdata : ∀ part, part <:+: code → occursIn dataOpen part = false := by
    intro part hpart
    rw [← Bool.not_eq_true, occurs_in_iff]
    exact fun hmark => h dataOpen (by simp) (hmark.trans hpart)
  have hrest : (((splitOnce ['>'] (trimStart code)).map Prod.snd).getD []) <:+: code := by
    cases hsplit : splitOnce ['>'] (trimStart code) with
    | none => exact List.nil_infix
    | some parts =>
        have hpart : parts.2 <:+ trimStart code := ⟨_, (split_once_append hsplit).symm⟩
        exact (hpart.trans (List.dropWhile_suffix isBlank)).isInfix
  refine ⟨?_, rfl⟩
  rw [step_tags_eq]
  simp only [readTags]
  split
  · simp [hdata _ hrest]
  · simp [hdata _ (List.infix_refl code)]

/-- Reading a stripped line is reading the tags of what the machine sees of the raw one. -/
theorem step_code_visible (state : IndentState) (before : CommentState) {line body : List Char}
    (hends : Ends line body) (hcomment : state.inComment = false) (hdata : state.inData = false)
    (hcode : Undeclared (strip .markup before line).2) :
    state.step .markup (strip .markup before line).2 false =
      state.stepTags (visible before line).2 := by
  have hbreaks := (strip_visible before hends).2
  have hcut : Undeclared (dropBreaks (strip .markup before line).2) :=
    hcode.of_part (drop_breaks_initial _).isInfix
  have hopen : ¬ openMark <:+: dropBreaks (strip .markup before line).2 := by
    rw [hbreaks]
    exact fun hpart => no_open_mark_visible before line
      (hpart.trans (drop_breaks_initial _).isInfix)
  rw [step_without_comments state hopen hcut.not_declaration hcomment hdata, hbreaks,
    apply_drop_breaks fun text _ h => step_tags_append_breaks h state text]

/-- A line read raw and a line read without its comments move the machine alike, provided that the
code behind the end of a comment is one that does. -/
theorem step_stripped (state : IndentState) {before : CommentState} {line body : List Char}
    (hends : Ends line body) (hdata : state.inData = false)
    (hcomment : state.inComment = (before == .inside))
    (hcode : Undeclared (strip .markup before line).2)
    (htail : before = .inside →
      state.ReadsTail (strip .markup before line).1 (strip .markup before line).2) :
    let next := (state.step .markup line ((strip .markup before line).1 == .inside)).next
    (state.uncommented.step .markup (strip .markup before line).2 false).next = next.uncommented ∧
      next.inData = false ∧ next.inComment = ((strip .markup before line).1 == .inside) := by
  have hundeclared : Undeclared (visible before line).2 :=
    strip_visible_same hends (fun text _ => undeclared_append_breaks text) ▸ hcode
  rw [(strip_visible before hends).1,
    step_code_visible state.uncommented before hends rfl hdata hcode]
  cases before with
  | outside =>
      rw [step_outside state hcomment hdata (not_declaration_of_cut_open hundeclared)]
      split
      case isTrue h => exact ⟨step_tags_quiet _ (quiet_of_blank _ h.2), hdata, rfl⟩
      case isFalse =>
          obtain ⟨hkept, hstill⟩ := step_tags_keeps
            { state with inComment := (visible .outside line).1 == .inside } hundeclared
          exact ⟨step_tags_uncommented state _ _, hkept.trans hdata, hstill⟩
  | inside =>
      have hreads : state.ReadsTail (visible .inside line).1 (visible .inside line).2 := by
        rw [← (strip_visible .inside hends).1,
          ← strip_visible_same hends fun text _ => reads_tail_append_breaks state _ text]
        exact htail rfl
      have hnext := state.uncommented.step_tags_tail hreads hundeclared
      rw [step_inside state hcomment, hnext]
      split
      case isTrue h => exact ⟨rfl, hdata, rfl⟩
      case isFalse h => exact ⟨rfl, hdata, rfl⟩

end IndentState

/-! ## Files -/

namespace Inspection

open Comment Indentation

/-- Behind the end of a comment, every line moves the depth as it would without the comment. -/
def TailsRead (state : IndentState) (before : CommentState) : List StrippedLine → Prop
  | [] => True
  | line :: rest =>
      (before = .inside → state.ReadsTail line.after line.code) ∧
        TailsRead (state.step .markup line.raw (line.after == .inside)).next line.after rest

instance decidableTailsRead (state : IndentState) (before : CommentState) :
    (lines : List StrippedLine) → Decidable (TailsRead state before lines)
  | [] => isTrue trivial
  | line :: rest =>
      have := decidableTailsRead (state.step .markup line.raw (line.after == .inside)).next
        line.after rest
      inferInstanceAs (Decidable (_ ∧ _))

/-- On lines in a row, the depths are those of the stripped lines. -/
theorem run_depths_eq {lines : List (List Char)} (hends : ∀ line ∈ lines, ∃ body, Ends line body)
    {state : IndentState} {before : CommentState} (hdata : state.inData = false)
    (hcomment : state.inComment = (before == .inside))
    (hcode : ∀ line ∈ stripLines .markup before lines, Markup.Undeclared line.code)
    (htails : TailsRead state before (stripLines .markup before lines)) :
    (run .markup state ((stripLines .markup before lines).map fun line =>
        (line.raw, line.after == .inside))).map (·.next.depth) =
      (run .markup state.uncommented ((stripLines .markup before lines).map fun line =>
        (line.code, false))).map (·.next.depth) := by
  induction lines generalizing state before with
  | nil => rfl
  | cons line rest ih =>
      obtain ⟨body, hbody⟩ := hends line List.mem_cons_self
      simp only [stripLines, List.forall_mem_cons, TailsRead] at hcode htails
      obtain ⟨hnext, hdata', hcomment'⟩ :=
        state.step_stripped hbody hdata hcomment hcode.1 htails.1
      have hrest := ih (fun other hother => hends other (List.mem_cons_of_mem line hother)) hdata'
        hcomment' hcode.2 htails.2
      simp only [stripLines, List.map_cons, run, hrest, hnext]
      rfl

/-- On a markup text in which nothing is declared once comments are taken out, the depth machine has
the same depth after every line of the file as after every stripped line, provided that each line
that starts in a comment holds only code which is read alike behind the comment. -/
theorem depths_eq_of_tails {text : List Char}
    (hcode : ∀ line ∈ stripLines .markup .outside (splitLines text), Markup.Undeclared line.code)
    (htails : TailsRead {} .outside (stripLines .markup .outside (splitLines text))) :
    (indentSteps .markup (stripLines .markup .outside (splitLines text))).map (·.next.depth) =
      (run .markup {} ((stripLines .markup .outside (splitLines text)).map fun line =>
        (line.code, false))).map (·.next.depth) :=
  run_depths_eq (fun _ hline => by
    obtain ⟨body, terminator, hbody, hterminator, heq⟩ := (split_lines_rows text).body_of_mem hline
    exact ⟨body, hbody, terminator, hterminator, heq⟩) rfl rfl hcode htails

/-- Tags in front of a comment and behind one, an end tag among them, and a line with nothing
between two comments. -/
theorem depths_eq_beside_comments :
    let text := "<a> <!-- x\n--> <!--\ny --><b>\r\n<c/> <!-- z\n--></b>\n</a>".toList
    let lines := stripLines .markup .outside (splitLines text)
    (∀ line ∈ lines, Markup.Undeclared line.code) ∧ TailsRead {} .outside lines ∧
      (indentSteps .markup lines).map (·.next.depth) = [1, 1, 2, 2, 1, 0] ∧
      (run .markup {} (lines.map fun line => (line.code, false))).map (·.next.depth) =
        [1, 1, 2, 2, 1, 0] := by
  intro text lines
  have hcode : ∀ line ∈ lines, Markup.Undeclared line.code := by decide +kernel
  have htails : TailsRead {} .outside lines := by decide +kernel
  have hdepths : (run .markup {} (lines.map fun line => (line.code, false))).map (·.next.depth) =
      [1, 1, 2, 2, 1, 0] := by decide +kernel
  exact ⟨hcode, htails, (depths_eq_of_tails hcode htails).trans hdepths, hdepths⟩

/-- A tag between two comments that both go beyond the line is not counted, though it is not in
either of them. -/
theorem tag_between_comments :
    let text := "<!--\n--><a><!--\n-->\n".toList
    let lines := stripLines .markup .outside (splitLines text)
    (∀ mark ∈ ["<![CDATA[".toList, "]]>".toList, "<?".toList, "<!DOCTYPE".toList],
        ¬ mark <:+: text) ∧
      (indentSteps .markup lines).map (·.next.depth) = [0, 0, 0] ∧
      (run .markup {} (lines.map fun line => (line.code, false))).map (·.next.depth) =
        [0, 1, 1] := by
  decide +kernel

end Inspection

end ChannelLint
