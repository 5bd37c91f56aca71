import ChannelLint.Proofs.TagLines

/-!
# Line breaks at the end of a text

When comments are taken out of a line, carriage returns that stood in front of a comment may end up
at the end of the line. Nothing that the depth machine reads in a line sees them: there is a lemma
about a text in front of line breaks for each function that it uses, up to
`IndentState.step_tags_append_breaks`. Whatever has such a lemma does not see that line breaks are
dropped (`Text.apply_drop_breaks`).
-/

namespace ChannelLint

/-! ## Texts -/

namespace Text

/-- The text consists of carriage returns and line feeds. -/
def IsBreaks (breaks : List Char) : Prop :=
  ∀ c ∈ breaks, c = '\r' ∨ c = '\n'

/-- Line breaks are blank. -/
theorem IsBreaks.blank {breaks : List Char} (h : IsBreaks breaks) :
    ∀ c ∈ breaks, isBlank c = true := by
  intro c hc
  rcases h c hc with rfl | rfl <;> rfl

/-- A character that is no line break is none of the line breaks. -/
theorem IsBreaks.not_mem {breaks : List Char} (h : IsBreaks breaks) {c : Char} (hr : c ≠ '\r')
    (hn : c ≠ '\n') : c ∉ breaks := fun hc => (h c hc).elim hr hn

/-- A text is what stays without line breaks at its end, and these. -/
theorem exists_breaks (text : List Char) :
    ∃ breaks, IsBreaks breaks ∧ text = dropBreaks text ++ breaks := by
  refine ⟨(text.reverse.takeWhile fun c => c == '\r' || c == '\n').reverse, ?_, ?_⟩
  · intro c hc
    simpa using List.mem_takeWhile_imp (List.mem_reverse.mp hc)
  · rw [dropBreaks, dropEndWhile, ← List.reverse_append, List.takeWhile_append_dropWhile,
      List.reverse_reverse]

/-- What does not see line breaks behind a text does not see that they are dropped. -/
theorem apply_drop_breaks {α : Sort*} {f : List Char → α}
    (h : ∀ text breaks, IsBreaks breaks → f (text ++ breaks) = f text) (text : List Char) :
    f (dropBreaks text) = f text := by
  obtain ⟨breaks, hbreaks, htext⟩ := exists_breaks text
  rw [← h (dropBreaks text) breaks hbreaks, ← htext]

section Breaks

variable {breaks : List Char} (h : IsBreaks breaks)
include h

/-- Line breaks at the end are dropped. -/
theorem drop_breaks_append_breaks (text : List Char) :
    dropBreaks (text ++ breaks) = dropBreaks text := by
  have hall : ∀ c ∈ breaks.reverse, (c == '\r' || c == '\n') = true := by
    intro c hc
    simpa using h c (List.mem_reverse.mp hc)
  simp only [dropBreaks, dropEndWhile, List.reverse_append, List.dropWhile_append_of_pos hall]

/-- A character that is no line break stands in front of the line breaks. -/
theorem mem_append_breaks {c : Char} (hr : c ≠ '\r') (hn : c ≠ '\n') (text : List Char) :
    c ∈ text ++ breaks ↔ c ∈ text := by
  rw [List.mem_append, or_iff_left (h.not_mem hr hn)]

/-- A mark that starts a text with line breaks behind it stands in front of these. -/
theorem initial_append_breaks {mark : List Char} (hmark : '\r' ∉ mark ∧ '\n' ∉ mark)
    (text : List Char) : mark <+: text ++ breaks ↔ mark <+: text := by
  constructor
  · intro hstart
    rcases List.prefix_or_prefix_of_prefix hstart (List.prefix_append text breaks) with
      hshort | ⟨rest, rfl⟩
    · exact hshort
    · -- what reaches into the line breaks is empty, for the mark has none
      have hrest : rest <+: breaks := (List.prefix_append_right_inj text).mp hstart
      have hempty : rest = [] := by
        refine List.eq_nil_iff_forall_not_mem.mpr fun c hc => ?_
        rcases h c (hrest.subset hc) with rfl | rfl
        · exact hmark.1 (List.mem_append_right text hc)
        · exact hmark.2 (List.mem_append_right text hc)
      simp [hempty]
  · exact fun hstart => hstart.trans (List.prefix_append text breaks)

/-- A text is split at a mark in front of the line breaks at its end. -/
theorem split_once_append_breaks {mark : List Char} (hmark : '\r' ∉ mark ∧ '\n' ∉ mark)
    (hne : mark ≠ []) (text : List Char) :
    splitOnce mark (text ++ breaks) =
      (splitOnce mark text).map fun parts => (parts.1, parts.2 ++ breaks) := by
  induction text with
  | nil =>
      have hnot : ¬ mark <:+: breaks := by
        intro hpart
        obtain ⟨c, hc⟩ := List.exists_mem_of_ne_nil mark hne
        rcases h c (hpart.subset hc) with rfl | rfl
        · exact hmark.1 hc
        · exact hmark.2 hc
      rw [List.nil_append, split_once_eq_none hnot, split_once_eq_none (by simpa using hne)]
      rfl
  | cons c text ih =>
      have hstart := initial_append_breaks h hmark (c :: text)
      rw [List.cons_append] at hstart ⊢
      simp only [splitOnce, List.isPrefixOf_iff_prefix, hstart]
      split
      case isTrue hinitial =>
          rw [← List.cons_append, List.drop_append_of_le_length hinitial.length_le]
          rfl
      case isFalse =>
          rw [ih, Option.map_map, Option.map_map]
          rfl

/-- A mark occurs in front of the line breaks at the end of a text. -/
theorem occurs_in_append_breaks {mark : List Char} (hmark : '\r' ∉ mark ∧ '\n' ∉ mark)
    (hne : mark ≠ []) (text : List Char) : occursIn mark (text ++ breaks) = occursIn mark text := by
  rw [occursIn, split_once_append_breaks h hmark hne, Option.isSome_map, occursIn]

/-- Trimming the end of a text drops the line breaks there. -/
theorem trim_end_append_breaks (text : List Char) : trimEnd (text ++ breaks) = trimEnd text := by
  have hall : ∀ c ∈ breaks.reverse, isBlank c = true := fun c hc =>
    h.blank c (List.mem_reverse.mp hc)
  simp only [trimEnd, dropEndWhile, List.reverse_append, List.dropWhile_append_of_pos hall]

/-- Line breaks at the end of a text have no part in whether it is blank. -/
theorem is_blank_text_append_breaks (text : List Char) :
    isBlankText (text ++ breaks) = isBlankText text := by
  rw [isBlankText, List.all_append, List.all_eq_true.mpr h.blank, Bool.and_true, isBlankText]

/-- Trimming the start of a text keeps the line breaks at its end, unless nothing else is left. -/
theorem trim_start_append_breaks (text : List Char) :
    trimStart (text ++ breaks) =
      if (trimStart text).isEmpty then [] else trimStart text ++ breaks := by
  rw [trimStart, trimStart, List.dropWhile_append, List.dropWhile_eq_nil_iff.mpr h.blank]

end Breaks

end Text

open Text

/-! ## Tags -/

namespace Markup

variable {breaks : List Char} (h : IsBreaks breaks)
include h

/-- No name starts with a line break. -/
theorem not_name_start_of_breaks {c : Char} (hc : c ∈ breaks) : isNameStart c = false := by
  rcases h c hc with rfl | rfl <;> rfl

/-- Line breaks are no angle brackets. -/
theorem no_angles_breaks : NoAngles breaks := by
  intro c hc
  rcases h c hc with rfl | rfl <;> rfl

/-- Line breaks do not end a tag. -/
theorem tag_body_append_breaks (closing : Bool) (text : List Char) :
    tagBody? closing (text ++ breaks) = tagBody? closing text := by
  by_cases hangles : NoAngles text
  · rw [tag_body_unfinished (hangles.append (no_angles_breaks h)), tag_body_unfinished hangles]
  · -- the first angle bracket stands in front of the line breaks
    have hlt : (text.takeWhile fun c => !isAngle c).length < text.length := by
      refine lt_of_le_of_ne (List.takeWhile_prefix _).length_le fun hlength => ?_
      refine hangles fun c hc => ?_
      have hself := (List.takeWhile_prefix _).eq_of_length hlength
      simpa using List.takeWhile_eq_self_iff.mp hself c hc
    obtain ⟨c, rest, hdrop⟩ := List.exists_cons_of_ne_nil (List.drop_eq_nil_iff.not.mpr hlt.not_ge)
    simp only [tagBody?, List.takeWhile_append, hlt.ne, ↓reduceIte,
      List.drop_append_of_le_length hlt.le, hdrop, List.cons_append]
    by_cases hc : c = '>'
    · subst hc
      rfl
    · simp [hc]

omit h in
/-- A start tag starts with its name. -/
theorem tag_after_name {c : Char} (hc : c ≠ '/') (rest : List Char) :
    tagAfter? (c :: rest) = if isNameStart c then tagBody? false rest else none := by
  rw [tagAfter?]
  exact fun _ _ heq _ => hc heq

/-- Line breaks do not end a tag, nor do they start a name. -/
theorem tag_after_append_breaks (text : List Char) :
    tagAfter? (text ++ breaks) = tagAfter? text := by
  cases text with
  | nil =>
      cases breaks with
      | nil => rfl
      | cons c breaks =>
          have hc : c ≠ '/' := by
            rintro rfl
            exact h.not_mem (by decide) (by decide) List.mem_cons_self
          rw [List.nil_append, tag_after_name hc, not_name_start_of_breaks h List.mem_cons_self]
          rfl
  | cons c rest =>
      by_cases hslash : c = '/'
      · subst hslash
        cases rest with
        | nil =>
            cases breaks with
            | nil => rfl
            | cons d breaks =>
                have hd := not_name_start_of_breaks h List.mem_cons_self
                simp [tagAfter?, hd, show isNameStart '/' = false from rfl]
        | cons d rest => simp only [List.cons_append, tagAfter?, tag_body_append_breaks h]
      · rw [List.cons_append, tag_after_name hslash, tag_after_name hslash,
          tag_body_append_breaks h]

/-- A text that is left open by a tag at its end is so in front of line breaks. -/
theorem ends_in_tag_append_breaks (text : List Char) :
    endsInTag (text ++ breaks) = endsInTag text := by
  induction text with
  | nil => exact ends_in_tag_of_no_open (no_angles_breaks h).not_mem_open
  | cons c text ih =>
      rw [List.cons_append, endsInTag.eq_def, endsInTag.eq_def (c :: text)]
      cases text with
      | nil =>
          cases breaks with
          | nil => rfl
          | cons d breaks => simp_all [not_name_start_of_breaks h List.mem_cons_self]
      | cons d text =>
          have hall : (breaks.all fun e => !isAngle e) = true :=
            List.all_eq_true.mpr fun e he => by simp [no_angles_breaks h e he]
          simp only [List.cons_append] at ih ⊢
          simp only [ih, List.all_append, hall, Bool.and_true]

/-- Line breaks at the end of a text add no tags. -/
theorem tags_append_breaks (text : List Char) : tags (text ++ breaks) = tags text := by
  induction text with
  | nil => exact tags_of_no_open (no_angles_breaks h).not_mem_open
  | cons c text ih => rw [List.cons_append, tags, tags, tag_after_append_breaks h, ih]

/-- Line breaks at the end of a text leave no element open. -/
theorem balance_append_breaks (text : List Char) : balance (text ++ breaks) = balance text := by
  rw [balance, tags_append_breaks h, balance]

/-- Line breaks at the end of a text leave no element open behind a leading end tag. -/
theorem balance_after_append_breaks (text : List Char) :
    balanceAfterLeading (text ++ breaks) = balanceAfterLeading text := by
  rw [balanceAfterLeading, tags_append_breaks h, balanceAfterLeading]

end Markup

/-! ## The machine -/

namespace IndentState

open Markup

variable {breaks : List Char} (h : IsBreaks breaks)
include h

/-- What a text starts with stands in front of the line breaks at its end. -/
theorem starts_with_append_breaks {mark : List Char} (hmark : '\r' ∉ mark ∧ '\n' ∉ mark)
    (text : List Char) : startsWith mark (text ++ breaks) = startsWith mark text := by
  rw [startsWith, startsWith, trim_start_append_breaks h]
  split
  case isTrue hempty => rw [List.isEmpty_iff.mp hempty]
  case isFalse =>
      rw [Bool.eq_iff_iff, List.isPrefixOf_iff_prefix, List.isPrefixOf_iff_prefix,
        initial_append_breaks h hmark]

omit h in
/-- What the tags of the code make of the line: whether character data and a tag are open after it,
and the change of the depth, which the given number is a part of. -/
def readTags (leadingClose inTag : Bool) (opened : Int) (body : List Char) : Bool × Bool × Int :=
  let inData := occursIn dataOpen body && !occursIn dataClose body
  let body := if inData then ((splitOnce dataOpen body).map Prod.fst).getD body else body
  let change := opened + (if leadingClose then balanceAfterLeading body else balance body)
  (inData,
    if inTag then
      if ['>', '/'].isPrefixOf (trimEnd body).reverse then (false, change - 1)
      else (!body.contains '>', change)
    else if endsInTag body then (true, change + 1)
    else (false, change))

omit h in
/-- A line is read by its tags, which start behind a lone end of a tag. -/
theorem step_tags_eq (state : IndentState) (body : List Char) :
    let leadingClose := startsWith ['<', '/'] body
    let endsTag := state.inTag && (startsWith ['/', '>'] body || startsWith ['>'] body)
    let depth := if endsTag then state.depth - 1 else state.depth
    let depth := if leadingClose then depth - 1 else depth
    let read := readTags leadingClose (state.inTag && !endsTag)
      (if endsTag && startsWith ['>'] body then 1 else 0)
      (if endsTag then ((splitOnce ['>'] (trimStart body)).map Prod.snd).getD [] else body)
    state.stepTags body =
      ⟨{ state with
          depth := shift depth read.2.2
          inTag := read.2.1
          inData := state.inData || read.1 }, some depth⟩ := rfl

/-- Line breaks at the end of the code make no difference. -/
theorem read_tags_append_breaks (leadingClose inTag : Bool) (opened : Int) (body : List Char) :
    readTags leadingClose inTag opened (body ++ breaks) =
      readTags leadingClose inTag opened body := by
  have hsplit : splitOnce dataOpen (body ++ breaks) = _ :=
    split_once_append_breaks h (by decide) (by decide) body
  have hopen : occursIn dataOpen (body ++ breaks) = occursIn dataOpen body :=
    occurs_in_append_breaks h (by decide) (by decide) body
  have hclose : occursIn dataClose (body ++ breaks) = occursIn dataClose body :=
    occurs_in_append_breaks h (by decide) (by decide) body
  have hangle : (body ++ breaks).contains '>' = body.contains '>' := by
    rw [Bool.eq_iff_iff, List.contains_iff_mem, List.contains_iff_mem,
      mem_append_breaks h (by decide) (by decide)]
  simp only [readTags, hopen, hclose, hsplit]
  cases hdata : occursIn dataOpen body && !occursIn dataClose body with
  | false =>
      simp only [Bool.false_eq_true, ↓reduceIte, balance_append_breaks h,
        balance_after_append_breaks h, trim_end_append_breaks h, ends_in_tag_append_breaks h,
        hangle]
  | true =>
      -- the line breaks stand behind the mark that opens the data
      have hsome : (splitOnce dataOpen body).isSome = true := (Bool.and_eq_true_iff.mp hdata).1
      obtain ⟨parts, hparts⟩ := Option.isSome_iff_exists.mp hsome
      rw [hparts]
      rfl

/-- Reading tags does not see line breaks at the end of the line. -/
theorem step_tags_append_breaks (state : IndentState) (body : List Char) :
    state.stepTags (body ++ breaks) = state.stepTags body := by
  have hmark : ∀ mark ∈ [['<', '/'], ['/', '>'], ['>']],
      startsWith mark (body ++ breaks) = startsWith mark body := by
    intro mark hmem
    refine starts_with_append_breaks h ?_ body
    revert mark
    decide
  have hrest : ∀ leadingClose inTag opened,
      readTags leadingClose inTag opened
          (((splitOnce ['>'] (trimStart (body ++ breaks))).map Prod.snd).getD []) =
        readTags leadingClose inTag opened
          (((splitOnce ['>'] (trimStart body)).map Prod.snd).getD []) := by
    intro leadingClose inTag opened
    rw [trim_start_append_breaks h]
    split
    case isTrue hempty => rw [List.isEmpty_iff.mp hempty]
    case isFalse =>
        rw [split_once_append_breaks h (by decide) (by decide)]
        cases splitOnce ['>'] (trimStart body) with
        | none => rfl
        | some parts => exact read_tags_append_breaks h leadingClose inTag opened parts.2
  simp only [step_tags_eq, hmark ['<', '/'] (by simp), hmark ['/', '>'] (by simp),
    hmark ['>'] (by simp)]
  cases state.inTag && (startsWith ['/', '>'] body || startsWith ['>'] body) with
  | false => simp only [Bool.false_eq_true, ↓reduceIte, read_tags_append_breaks h]
  | true => simp only [↓reduceIte, hrest]

end IndentState

/-! ## Comments -/

namespace Comment

variable {breaks : List Char} (h : IsBreaks breaks)
include h

/-- Line breaks at the end of a line close no comment. -/
theorem closes_in_line_append_breaks (text : List Char) :
    closesInLine (text ++ breaks) = closesInLine text := by
  fun_induction closesInLine text with
  | case1 after => rfl
  | case2 c text hclose ih =>
      have hstart : ¬ closeMark <+: c :: (text ++ breaks) := fun hmark =>
        not_close_mark_initial hclose ((initial_append_breaks h (by decide) (c :: text)).mp hmark)
      rw [List.cons_append, closes_in_line_cons hstart, ih]
  | case3 =>
      have hdash : '-' ∉ breaks := h.not_mem (by decide) (by decide)
      clear h
      rw [List.nil_append]
      fun_induction closesInLine breaks with
      | case1 after => simp at hdash
      | case2 c rest hclose ih => rw [ih (List.not_mem_of_not_mem_cons hdash), Bool.and_false]
      | case3 => rfl

/-- Line breaks at the end of a line stay when comments are taken out of it. -/
theorem drop_inline_append_breaks {inComment : Bool} (text : List Char)
    (hcloses : inComment = true → closesInLine text = true) :
    dropInline inComment (text ++ breaks) = dropInline inComment text ++ breaks := by
  fun_induction dropInline inComment text with
  | case1 inComment =>
      cases inComment with
      | true => cases hcloses rfl
      | false =>
          have hopen : '<' ∉ breaks := h.not_mem (by decide) (by decide)
          exact drop_inline_eq_self fun hmark => hopen (hmark.subset (by decide))
  | case2 after ih => exact ih (by simp)
  | case3 c rest hclose ih =>
      have hclose : ¬ closeMark <+: c :: rest := not_close_mark_initial hclose
      have hrest : closesInLine rest = true := by
        rw [closes_in_line_cons hclose] at hcloses
        exact (Bool.and_eq_true_iff.mp (hcloses rfl)).2
      have hstart : ¬ closeMark <+: c :: (rest ++ breaks) := fun hmark =>
        hclose ((initial_append_breaks h (by decide) (c :: rest)).mp hmark)
      rw [List.cons_append, dropInline, ih fun _ => hrest]
      intro after hc heq
      exact hstart (close_mark_initial_iff.mpr ⟨hc, after, heq⟩)
  | case4 after hends ih =>
      simp only [List.cons_append, dropInline, closes_in_line_append_breaks h, hends, ↓reduceIte]
      exact ih fun _ => hends
  | case5 after hends ih =>
      simp only [List.cons_append, dropInline, closes_in_line_append_breaks h, hends, ↓reduceIte,
        ih (by simp), Bool.false_eq_true]
  | case6 c rest hopen ih =>
      have hstart : ¬ openMark <+: c :: (rest ++ breaks) := fun hmark =>
        not_open_mark_initial hopen ((initial_append_breaks h (by decide) (c :: rest)).mp hmark)
      rw [List.cons_append, drop_inline_keep hstart, ih (by simp), List.cons_append]

/-- Line breaks at the end of a line have no part in where it is cut. -/
theorem cut_open_append_breaks (kept : List Char) :
    (cutOpen (kept ++ breaks)).1 = (cutOpen kept).1 ∧
      dropBreaks (cutOpen (kept ++ breaks)).2 = dropBreaks (cutOpen kept).2 := by
  rw [cutOpen, split_once_append_breaks h (by decide) (by decide), cutOpen]
  cases splitOnce openMark kept with
  | none => exact ⟨rfl, drop_breaks_append_breaks h kept⟩
  | some parts => exact ⟨rfl, rfl⟩

end Comment

end ChannelLint
