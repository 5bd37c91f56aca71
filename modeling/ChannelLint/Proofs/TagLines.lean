import ChannelLint.Proofs.MarkupScanner
import ChannelLint.Proofs.PlacedLines

/-!
# Lines made of tags

What the depth machine makes of a markup line by the tags on it. A line of code, in which no angle
bracket is followed by an exclamation or question mark (`IsCode`), has no comment, character data or
declaration on it, so that reading it is reading its tags (`IndentState.step_code`). Outside a tag
only the finished tags and an unfinished one at the end count; inside one, only what ends it.
-/

namespace ChannelLint

/-! ## Parts of texts -/

namespace Text

/-- A part can be split at exactly if it is there. -/
theorem occurs_in_iff {part text : List Char} : occursIn part text = true ↔ part <:+: text := by
  induction text with
  | nil => cases part <;> simp [occursIn, splitOnce]
  | cons c rest ih =>
      rw [List.infix_cons_iff, ← ih, ← List.isPrefixOf_iff_prefix]
      simp only [occursIn, splitOnce]
      split <;> simp_all

/-- A part that is not there cannot be split at. -/
theorem split_once_eq_none {part text : List Char} (h : ¬ part <:+: text) :
    splitOnce part text = none := by
  rwa [← occurs_in_iff, occursIn, Bool.not_eq_true, Option.isSome_eq_false_iff,
    Option.isNone_iff_eq_none] at h

/-- A pair of characters in a text that starts with another character stands behind that one. -/
theorem pair_infix_cons {c d first : Char} {text : List Char} (h : first ≠ c) :
    [c, d] <:+: first :: text ↔ [c, d] <:+: text := by
  simp [List.infix_cons_iff, h.symm]

/-- A pair of characters does not stand across a text that lacks the first of them. -/
theorem pair_infix_append {c d : Char} {text : List Char} (h : c ∉ text) (rest : List Char) :
    [c, d] <:+: text ++ rest ↔ [c, d] <:+: rest := by
  induction text with
  | nil => rfl
  | cons first text ih =>
      rw [List.mem_cons, not_or] at h
      rw [List.cons_append, pair_infix_cons (Ne.symm h.1), ih h.2]

/-- A text that lacks the first of two characters lacks the pair. -/
theorem not_pair_of_not_mem {c d : Char} {text : List Char} (h : c ∉ text) : ¬ [c, d] <:+: text :=
  fun hpart => h (hpart.subset List.mem_cons_self)

end Text

open Text

/-! ## Tags -/

namespace Markup

/-- A text without an angle bracket that opens a tag has no tags. -/
theorem tags_of_no_open {text : List Char} (h : '<' ∉ text) : tags text = [] := by
  induction text with
  | nil => rfl
  | cons c rest ih =>
      rw [List.mem_cons, not_or] at h
      have hc : (c == '<') = false := beq_eq_false_iff_ne.mpr (Ne.symm h.1)
      simp [tags, hc, ih h.2]

/-- A text without tags in front adds none. -/
theorem tags_append {text : List Char} (h : '<' ∉ text) (rest : List Char) :
    tags (text ++ rest) = tags rest := by
  induction text with
  | nil => rfl
  | cons c text ih =>
      rw [List.mem_cons, not_or] at h
      have hc : (c == '<') = false := beq_eq_false_iff_ne.mpr (Ne.symm h.1)
      simp [tags, hc, ih h.2]

/-- No angle bracket stands in the text. -/
def NoAngles (text : List Char) : Prop :=
  ∀ c ∈ text, isAngle c = false

theorem NoAngles.not_mem_open {text : List Char} (h : NoAngles text) : '<' ∉ text :=
  fun hmem => by cases h _ hmem

theorem NoAngles.not_mem_close {text : List Char} (h : NoAngles text) : '>' ∉ text :=
  fun hmem => by cases h _ hmem

theorem NoAngles.append {first second : List Char} (h : NoAngles first)
    (hsecond : NoAngles second) : NoAngles (first ++ second) :=
  List.forall_mem_append.mpr ⟨h, hsecond⟩

/-- The rest of a tag ends with the next angle bracket. -/
theorem tag_body_append {inner : List Char} (h : NoAngles inner) (closing : Bool)
    (rest : List Char) :
    tagBody? closing (inner ++ '>' :: rest) = some ⟨closing, inner.getLast? == some '/'⟩ := by
  have hinner : (inner ++ '>' :: rest).takeWhile (fun c => !isAngle c) = inner := by
    have hall : ∀ c ∈ inner, (!isAngle c) = true := fun c hc => by simp [h c hc]
    rw [List.takeWhile_append_of_pos hall]
    simp [isAngle]
  simp [tagBody?, hinner]

/-- A tag whose rest does not end is none. -/
theorem tag_body_unfinished {inner : List Char} (h : NoAngles inner) (closing : Bool) :
    tagBody? closing inner = none := by
  have hinner : inner.takeWhile (fun c => !isAngle c) = inner :=
    List.takeWhile_eq_self_iff.mpr fun c hc => by simp [h c hc]
  simp [tagBody?, hinner]

/-- A name starts with no slash. -/
theorem ne_slash_of_name_start {c : Char} (hc : isNameStart c = true) : c ≠ '/' := by
  rintro rfl
  cases hc

/-- A start tag in front of a text. -/
theorem tags_start {c : Char} {inner : List Char} (hc : isNameStart c = true) (h : NoAngles inner)
    (rest : List Char) :
    tags ('<' :: c :: (inner ++ '>' :: rest)) =
      ⟨false, inner.getLast? == some '/'⟩ :: tags rest := by
  have hlt : c ≠ '<' := by
    rintro rfl
    cases hc
  have hafter : tagAfter? (c :: (inner ++ '>' :: rest)) =
      some ⟨false, inner.getLast? == some '/'⟩ := by
    rw [tagAfter?, if_pos hc, tag_body_append h]
    exact fun _ _ hslash _ => ne_slash_of_name_start hc hslash
  have hrest : tags (c :: (inner ++ '>' :: rest)) = tags rest := by
    have hopen : '<' ∉ c :: (inner ++ ['>']) := by
      simp [hlt.symm, h.not_mem_open]
    have happend := tags_append hopen rest
    simpa using happend
  rw [tags, hafter, hrest]
  rfl

/-- A start tag that does not end is no tag. -/
theorem tags_unfinished {c : Char} {inner : List Char} (hc : isNameStart c = true)
    (h : NoAngles inner) : tags ('<' :: c :: inner) = [] := by
  have hlt : c ≠ '<' := by
    rintro rfl
    cases hc
  have hafter : tagAfter? (c :: inner) = none := by
    rw [tagAfter?, if_pos hc, tag_body_unfinished h]
    exact fun _ _ hslash _ => ne_slash_of_name_start hc hslash
  have hrest : tags (c :: inner) = [] :=
    tags_of_no_open (by simp [hlt.symm, h.not_mem_open])
  rw [tags, hafter, hrest]
  rfl

/-- An end tag in front of a text. -/
theorem tags_end {c : Char} {inner : List Char} (hc : isNameStart c = true) (h : NoAngles inner)
    (rest : List Char) :
    tags ('<' :: '/' :: c :: (inner ++ '>' :: rest)) =
      ⟨true, inner.getLast? == some '/'⟩ :: tags rest := by
  have hlt : c ≠ '<' := by
    rintro rfl
    cases hc
  have hafter : tagAfter? ('/' :: c :: (inner ++ '>' :: rest)) =
      some ⟨true, inner.getLast? == some '/'⟩ := by
    rw [tagAfter?, if_pos hc, tag_body_append h]
  have hrest : tags ('/' :: c :: (inner ++ '>' :: rest)) = tags rest := by
    have hopen : '<' ∉ '/' :: c :: (inner ++ ['>']) := by
      simp [hlt.symm, h.not_mem_open]
    have happend := tags_append hopen rest
    simpa using happend
  rw [tags, hafter, hrest]
  rfl

/-- A text that does not open a tag does not end in one. -/
theorem ends_in_tag_of_no_open {text : List Char} (h : '<' ∉ text) : endsInTag text = false := by
  induction text with
  | nil => rfl
  | cons c rest ih =>
      rw [List.mem_cons, not_or] at h
      have hc : (c == '<') = false := beq_eq_false_iff_ne.mpr (Ne.symm h.1)
      simp [endsInTag, hc, ih h.2]

/-- Whether a text ends in a tag is decided behind the last end of a tag. -/
theorem ends_in_tag_append (text rest : List Char) :
    endsInTag (text ++ '>' :: rest) = endsInTag rest := by
  induction text with
  | nil => simp [endsInTag]
  | cons c text ih =>
      -- an angle bracket in front would have to reach to the end of the text
      cases text with
      | nil => simp [endsInTag, isNameStart]
      | cons d more =>
          rw [List.cons_append, List.cons_append, endsInTag, ← List.cons_append, ih]
          simp [isAngle]

/-- The start of a tag is followed by its end, or the text ends in it. -/
theorem ends_in_tag_start {c : Char} {inner : List Char} (hc : isNameStart c = true)
    (h : NoAngles inner) : endsInTag ('<' :: c :: inner) = true := by
  have hall : (inner.all fun e => !isAngle e) = true :=
    List.all_eq_true.mpr fun e he => by simp [h e he]
  simp [endsInTag, hc, hall]

end Markup

/-! ## Reading tags -/

namespace IndentState

open Markup

/-- A depth that does not change. -/
@[simp] theorem shift_zero (depth : Nat) : shift depth 0 = depth := by
  simp [shift]

/-- A depth that grows. -/
@[simp] theorem shift_one (depth : Nat) : shift depth 1 = depth + 1 := by
  simp [shift, Int.toNat_natCast_add_one]

/-- A depth that gets less, but not below zero. -/
@[simp] theorem shift_neg_one (depth : Nat) : shift depth (-1) = depth - 1 := by
  simp only [shift]
  omega

/-- The trimmed code starts with the given mark. -/
def startsWith (mark body : List Char) : Bool :=
  mark.isPrefixOf (trimStart body)

/-- Code that starts with a character which is not blank starts with a mark by that character. -/
theorem starts_with_cons {c : Char} (hc : isBlank c = false) (mark : Char)
    (marks rest : List Char) :
    startsWith (mark :: marks) (c :: rest) = (mark == c && marks.isPrefixOf rest) := by
  simp [startsWith, trimStart, hc, List.isPrefixOf]

/-- Code that starts with a mark holds the mark. -/
theorem infix_of_starts_with {mark body : List Char} (h : startsWith mark body = true) :
    mark <:+: body :=
  (List.isPrefixOf_iff_prefix.mp h).isInfix.trans (List.dropWhile_suffix isBlank).isInfix

/-- Outside a tag, the tags of the code count and an unfinished one at its end. An end tag in front
counts for the line itself. -/
theorem step_tags_outside (state : IndentState) {body : List Char} (htag : state.inTag = false)
    (hdata : ¬ dataOpen <:+: body) :
    let depth := if startsWith ['<', '/'] body then state.depth - 1 else state.depth
    let change := if startsWith ['<', '/'] body then balanceAfterLeading body else balance body
    state.stepTags body =
      ⟨{ state with
          depth := shift depth (if endsInTag body then change + 1 else change)
          inTag := endsInTag body }, some depth⟩ := by
  have hoccurs : occursIn dataOpen body = false := by
    rwa [← occurs_in_iff, Bool.not_eq_true] at hdata
  simp only [stepTags, startsWith, htag, hoccurs, Bool.false_and, Bool.false_eq_true, ↓reduceIte,
    Int.zero_add, Bool.or_false, Bool.not_false]
  cases endsInTag body <;> rfl

/-- Inside a tag, code that does not start with what ends a tag stands one level deeper than the
tag. -/
theorem step_tags_inside (state : IndentState) {body : List Char} (htag : state.inTag = true)
    (hdata : ¬ dataOpen <:+: body) (hclose : startsWith ['<', '/'] body = false)
    (hend : startsWith ['/', '>'] body = false) (hangle : startsWith ['>'] body = false) :
    state.stepTags body =
      ⟨{ state with
          depth := shift state.depth (if ['>', '/'].isPrefixOf (trimEnd body).reverse then
            balance body - 1 else balance body)
          inTag := !(['>', '/'].isPrefixOf (trimEnd body).reverse) && !body.contains '>' },
        some state.depth⟩ := by
  have hoccurs : occursIn dataOpen body = false := by
    rwa [← occurs_in_iff, Bool.not_eq_true] at hdata
  simp only [startsWith] at hclose hend hangle
  simp only [stepTags, htag, hclose, hend, hangle, hoccurs, Bool.or_self, Bool.and_false,
    Bool.false_and, Bool.false_eq_true, ↓reduceIte, Int.zero_add, Bool.or_false, Bool.not_false,
    Bool.and_true]
  cases ['>', '/'].isPrefixOf (trimEnd body).reverse <;> rfl

end IndentState

/-! ## Lines of code -/

namespace Markup

/-- No opening angle bracket of the text is followed by an exclamation or question mark. -/
structure IsCode (text : List Char) : Prop where
  no_exclamation : ¬ ['<', '!'] <:+: text
  no_question : ¬ ['<', '?'] <:+: text

namespace IsCode

variable {text : List Char}

/-- No comment starts on a line of code. -/
theorem no_open_mark (h : IsCode text) : ¬ Comment.openMark <:+: text := fun hpart =>
  h.no_exclamation (List.IsInfix.trans ⟨[], ['-', '-'], rfl⟩ hpart)

/-- No character data starts on a line of code. -/
theorem no_data_open (h : IsCode text) : ¬ dataOpen <:+: text := fun hpart =>
  h.no_exclamation (List.IsInfix.trans ⟨[], "[CDATA[".toList, rfl⟩ hpart)

/-- A line of code is no declaration. -/
theorem not_declaration (h : IsCode text) : isDeclaration text = false := by
  rw [isDeclaration, Bool.or_eq_false_iff]
  constructor
  · rw [← Bool.not_eq_true]
    exact fun hmark => h.no_question (IndentState.infix_of_starts_with hmark)
  · rw [← Bool.not_eq_true]
    exact fun hmark => h.no_exclamation
      (List.IsInfix.trans ⟨[], "DOCTYPE".toList, rfl⟩ (IndentState.infix_of_starts_with hmark))

/-- A part of code is code. -/
theorem of_part {part : List Char} (h : IsCode text) (hpart : part <:+: text) : IsCode part :=
  ⟨fun hpair => h.no_exclamation (hpair.trans hpart),
    fun hpair => h.no_question (hpair.trans hpart)⟩

/-- A text without opening angle brackets is code. -/
theorem of_no_open (h : '<' ∉ text) : IsCode text :=
  ⟨not_pair_of_not_mem h, not_pair_of_not_mem h⟩

/-- A tag and what follows it is code if what follows is. -/
theorem tag {c : Char} {inner rest : List Char} (hc : isNameStart c = true ∨ c = '/')
    (h : '<' ∉ inner) (hrest : IsCode rest) : IsCode ('<' :: c :: (inner ++ rest)) := by
  have hne : c ≠ '<' ∧ c ≠ '!' ∧ c ≠ '?' := by
    refine ⟨?_, ?_, ?_⟩ <;> rintro rfl <;> rcases hc with hc | hc <;> cases hc
  have hpair : ∀ d, c ≠ d → ¬ ['<', d] <:+: rest → ¬ ['<', d] <:+: '<' :: c :: (inner ++ rest) := by
    intro d hd hpart
    rw [List.infix_cons_iff, pair_infix_cons hne.1, pair_infix_append h]
    simp [Ne.symm hd, hpart]
  exact ⟨hpair '!' hne.2.1 hrest.no_exclamation, hpair '?' hne.2.2 hrest.no_question⟩

end IsCode

end Markup

namespace Comment

/-- A line without an opening mark has no comments to take out. -/
theorem drop_inline_eq_self {body : List Char} (h : ¬ openMark <:+: body) :
    dropInline false body = body := by
  induction body with
  | nil => rfl
  | cons c rest ih =>
      rw [List.infix_cons_iff, not_or] at h
      rw [drop_inline_keep h.1, ih h.2]

/-- What stands in front of an angle bracket stays when comments are taken out. -/
theorem drop_inline_append {lead : List Char} (h : '<' ∉ lead) (rest : List Char) :
    dropInline false (lead ++ rest) = lead ++ dropInline false rest := by
  induction lead with
  | nil => rfl
  | cons c lead ih =>
      rw [List.mem_cons, not_or] at h
      have hstart : ¬ openMark <+: c :: (lead ++ rest) := fun hmark =>
        h.1 (open_mark_initial_iff.mp hmark).1.symm
      rw [List.cons_append, drop_inline_keep hstart, ih h.2, List.cons_append]

/-- A line of code leaves the comment state as it is. -/
theorem strip_state_of_code {body : List Char} (h : Markup.IsCode body) (hbody : '\n' ∉ body) :
    (strip .markup .outside body).1 = .outside := by
  have hterminator := split_terminator_append hbody (.inl rfl)
  rw [List.append_nil] at hterminator
  simp only [strip, stripMarkup, hterminator, stripMarkupOutside,
    drop_inline_eq_self h.no_open_mark, split_once_eq_none h.no_open_mark]

end Comment

/-- Outside comments and character data, reading a line without comments that is no declaration is
reading its tags. -/
theorem IndentState.step_without_comments (state : IndentState) {body : List Char}
    (hopen : ¬ Comment.openMark <:+: dropBreaks body)
    (hdeclaration : Markup.isDeclaration (dropBreaks body) = false)
    (hcomment : state.inComment = false) (hdata : state.inData = false) :
    state.step .markup body false = state.stepTags (dropBreaks body) := by
  obtain ⟨depth, pendingOpen, inTag, inData, inComment⟩ := state
  obtain rfl : inComment = false := hcomment
  obtain rfl : inData = false := hdata
  simp only [step, stepMarkup, hdeclaration, Comment.drop_inline_eq_self hopen, Bool.false_eq_true,
    ↓reduceIte]

/-- Outside comments and character data, reading a line of code is reading its tags. -/
theorem IndentState.step_code (state : IndentState) {body : List Char} (h : Markup.IsCode body)
    (hcomment : state.inComment = false) (hdata : state.inData = false) :
    state.step .markup body false = state.stepTags (dropBreaks body) := by
  have hkept : Markup.IsCode (dropBreaks body) := h.of_part (drop_breaks_initial body).isInfix
  exact step_without_comments state hkept.no_open_mark hkept.not_declaration hcomment hdata

end ChannelLint
