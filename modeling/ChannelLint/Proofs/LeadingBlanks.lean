import ChannelLint.Proofs.Indenting
import ChannelLint.Proofs.Stripping
import Mathlib.Data.List.TakeWhile

/-!
# Leading spaces and tabs decide nothing

Neither the comment state nor the depth machine sees the spaces and tabs in front of a line. The
statements are about one more such character in front of any text, function by function, up to
`Comment.strip_state_cons` and `IndentState.step_cons`; a function either ignores the character or
passes it on in front of its result.
-/

namespace ChannelLint

/-- Whether lines are indented with the character. -/
def Indentation.isIndent (c : Char) : Bool :=
  c == ' ' || c == '\t'

variable {c : Char} (hc : Indentation.isIndent c = true)
include hc

/-- Lines are indented with spaces and tabs. -/
theorem Indentation.is_indent_cases : c = ' ' ∨ c = '\t' := by
  simpa [Indentation.isIndent] using hc

/-! ## Trimming and splitting -/

namespace Text

/-- Spaces and tabs are blank. -/
theorem is_blank_of_indent : isBlank c = true := by
  rcases Indentation.is_indent_cases hc with rfl | rfl <;> rfl

/-- Spaces and tabs belong to no word. -/
theorem is_word_of_indent : isWord c = false := by
  rcases Indentation.is_indent_cases hc with rfl | rfl <;> decide +kernel

/-- Trimming drops a leading space or tab. -/
theorem trim_start_cons (text : List Char) : trimStart (c :: text) = trimStart text := by
  simp [trimStart, is_blank_of_indent hc]

/-- A text with a space or tab in front is blank if the text is. -/
theorem is_blank_text_cons (text : List Char) : isBlankText (c :: text) = isBlankText text := by
  simp [isBlankText, is_blank_of_indent hc]

omit hc in
/-- Dropping characters from the end keeps a first one that would not be dropped. -/
theorem drop_end_while_cons {test : Char → Bool} (htest : test c = false) (text : List Char) :
    dropEndWhile test (c :: text) = c :: dropEndWhile test text := by
  simp only [dropEndWhile, List.reverse_cons, List.dropWhile_append]
  split <;> simp_all

omit hc in
/-- Of a text nothing is left exactly if it is blank. -/
theorem trim_end_eq_nil_iff {text : List Char} : trimEnd text = [] ↔ isBlankText text = true := by
  simp [trimEnd, dropEndWhile, isBlankText, List.dropWhile_eq_nil_iff]

omit hc in
/-- Trimming the end of a text that is not blank keeps its first character. -/
theorem trim_end_cons {text : List Char} (h : isBlankText text = false) :
    trimEnd (c :: text) = c :: trimEnd text := by
  have hword : text.reverse.dropWhile isBlank ≠ [] := by
    intro hnil
    rw [trim_end_eq_nil_iff.mp (by simp [trimEnd, dropEndWhile, hnil])] at h
    cases h
  simp [trimEnd, dropEndWhile, List.dropWhile_append, hword]

omit hc in
/-- A first character that does not start the part stays in front of the part. -/
theorem split_once_cons {part : List Char} (hpart : part.head? ≠ some c) (hne : part ≠ [])
    (text : List Char) :
    splitOnce part (c :: text) =
      (splitOnce part text).map fun (before, after) => (c :: before, after) := by
  have hstart : part.isPrefixOf (c :: text) = false := by
    cases part with
    | nil => exact absurd rfl hne
    | cons d part => simp_all [List.isPrefixOf]
  simp [splitOnce, hstart]

/-- A space or tab stands in front of the body of a line. -/
theorem split_terminator_cons (line : List Char) :
    splitTerminator (c :: line) = (c :: (splitTerminator line).1, (splitTerminator line).2) := by
  have hfeed : c ≠ '\n' := by
    rcases Indentation.is_indent_cases hc with rfl | rfl <;> decide
  cases line with
  | nil => simp [splitTerminator, hfeed]
  | cons d line =>
      simp only [splitTerminator, List.getLast?_cons_cons]
      split <;> simp

end Text

open Text

/-! ## Comments -/

namespace Comment

/-- A space or tab in front of a script line stays in front of its code. -/
theorem strip_script_cons (line : List Char) : stripScript (c :: line) = c :: stripScript line := by
  simp only [stripScript, split_terminator_cons hc]
  rcases Indentation.is_indent_cases hc with rfl | rfl <;> rfl

/-- A space or tab in front of a markup line stays when comments are taken out. -/
theorem drop_inline_cons (body : List Char) :
    dropInline false (c :: body) = c :: dropInline false body := by
  rcases Indentation.is_indent_cases hc with rfl | rfl <;> rfl

/-- A space or tab starts no mark. -/
theorem split_once_mark_cons {mark : List Char} (hmark : mark = openMark ∨ mark = closeMark)
    (text : List Char) :
    splitOnce mark (c :: text) =
      (splitOnce mark text).map fun (before, after) => (c :: before, after) := by
  apply split_once_cons
  · rcases hmark with rfl | rfl <;> rcases Indentation.is_indent_cases hc with rfl | rfl <;> decide
  · rcases hmark with rfl | rfl <;> decide

/-- The comment state after a line does not depend on a space or tab in front of it. -/
theorem strip_state_cons (dialect : Dialect) (state : CommentState) (line : List Char) :
    (strip dialect state (c :: line)).1 = (strip dialect state line).1 := by
  have houtside : ∀ body terminator, (stripMarkupOutside (c :: body) terminator).1 =
      (stripMarkupOutside body terminator).1 := by
    intro body terminator
    simp only [stripMarkupOutside, drop_inline_cons hc, split_once_mark_cons hc (.inl rfl)]
    cases splitOnce openMark (dropInline false body) <;> rfl
  cases dialect with
  | script => rfl
  | plain => rfl
  | markup =>
      simp only [strip, stripMarkup, split_terminator_cons hc]
      cases state with
      | outside => exact houtside _ _
      | inside =>
          simp only [split_once_mark_cons hc (.inr rfl)]
          cases splitOnce closeMark (splitTerminator line).1 <;> rfl

end Comment

/-! ## Blocks of scripts -/

namespace Script

/-- A test that no space or tab satisfies is satisfied at the same places. -/
theorem somewhere_cons {test : Bool → List Char → Bool} {code : List Char}
    (htest : test false (c :: code) = false) :
    somewhere test false (c :: code) = somewhere test false code := by
  rw [somewhere, htest, Bool.false_or, is_word_of_indent hc]

/-- A space or tab in front of code does not decide whether it ends with a bracket. -/
theorem ends_with_bracket_cons (code : List Char) :
    endsWithBracket (c :: code) = endsWithBracket code := by
  cases hblank : isBlankText code with
  | true =>
      have hcons : isBlankText (c :: code) = true := by rwa [is_blank_text_cons hc]
      simp [endsWithBracket, trim_end_eq_nil_iff.mpr hblank, trim_end_eq_nil_iff.mpr hcons]
  | false =>
      have hne : trimEnd code ≠ [] := fun hnil => by
        rw [trim_end_eq_nil_iff.mp hnil] at hblank
        cases hblank
      rw [endsWithBracket, trim_end_cons hblank, List.getLast?_cons, endsWithBracket]
      simp [List.getLast?_eq_some_getLast hne]

/-- A space or tab in front of code does not decide whether it is a conditional. -/
theorem is_conditional_cons (code : List Char) :
    isConditional (c :: code) = isConditional code := by
  simp only [isConditional, trim_start_cons hc]

/-- A space or tab in front of code does not decide whether it starts a block. -/
theorem starts_block_cons (code : List Char) : startsBlock (c :: code) = startsBlock code := by
  have hexpression : hasFunctionExpression (c :: code) = hasFunctionExpression code := by
    refine somewhere_cons hc ?_
    rcases Indentation.is_indent_cases hc with rfl | rfl <;> rfl
  simp only [startsBlock, trim_start_cons hc, hexpression, ends_with_bracket_cons hc]

/-- A space or tab in front of code does not decide whether it opens a block. -/
theorem opens_cons (code : List Char) : opens (c :: code) = opens code := by
  have hinline : endsFunctionInline (c :: code) = endsFunctionInline code := by
    refine somewhere_cons hc ?_
    rcases Indentation.is_indent_cases hc with rfl | rfl <;> rfl
  have hthen : hasStatementAfterThen (c :: code) = hasStatementAfterThen code := by
    refine somewhere_cons hc ?_
    rcases Indentation.is_indent_cases hc with rfl | rfl <;> rfl
  rw [opens, hinline, is_conditional_cons hc, hthen, starts_block_cons hc, ← opens]

/-- A space or tab in front of code does not decide whether it closes a block. -/
theorem closes_cons (code : List Char) : closes (c :: code) = closes code := by
  simp only [closes, trim_start_cons hc]

/-- A space or tab in front of a line stays in front of its code. -/
theorem code_of_cons (line : List Char) : codeOf (c :: line) = c :: codeOf line := by
  rw [codeOf, Comment.strip_script_cons hc, codeOf]
  refine drop_end_while_cons ?_ _
  rcases Indentation.is_indent_cases hc with rfl | rfl <;> rfl

end Script

/-! ## Tags of markup -/

namespace Markup

/-- A space or tab is no tag. -/
theorem tags_cons (body : List Char) : tags (c :: body) = tags body := by
  rcases Indentation.is_indent_cases hc with rfl | rfl <;> rfl

/-- A space or tab starts no tag. -/
theorem ends_in_tag_cons (body : List Char) : endsInTag (c :: body) = endsInTag body := by
  rcases Indentation.is_indent_cases hc with rfl | rfl <;> rfl

/-- A space or tab opens and closes no character data. -/
theorem split_once_data_cons {mark : List Char} (hmark : mark = dataOpen ∨ mark = dataClose)
    (body : List Char) :
    splitOnce mark (c :: body) =
      (splitOnce mark body).map fun (before, after) => (c :: before, after) := by
  apply split_once_cons
  · rcases hmark with rfl | rfl <;> rcases Indentation.is_indent_cases hc with rfl | rfl <;> decide
  · rcases hmark with rfl | rfl <;> decide

/-- A space or tab in front does not decide whether character data opens or closes. -/
theorem occurs_in_cons {mark : List Char} (hmark : mark = dataOpen ∨ mark = dataClose)
    (body : List Char) : occursIn mark (c :: body) = occursIn mark body := by
  simp [occursIn, split_once_data_cons hc hmark]

/-- A space or tab in front does not decide whether the text ends with the end of an empty
element. -/
theorem self_closes_cons (body : List Char) :
    ['>', '/'].isPrefixOf (trimEnd (c :: body)).reverse =
      ['>', '/'].isPrefixOf (trimEnd body).reverse := by
  cases hblank : isBlankText body with
  | true =>
      have hcons : isBlankText (c :: body) = true := by rwa [is_blank_text_cons hc]
      rw [trim_end_eq_nil_iff.mpr hblank, trim_end_eq_nil_iff.mpr hcons]
  | false =>
      -- the character would have to be the slash before the bracket
      rw [trim_end_cons hblank, List.reverse_cons]
      rcases (trimEnd body).reverse with _ | ⟨d, _ | ⟨e, rest⟩⟩ <;>
        rcases Indentation.is_indent_cases hc with rfl | rfl <;> simp [List.isPrefixOf]

end Markup

/-! ## The depth machine -/

namespace IndentState

/-- A space or tab in front of the code of a markup line is not seen. -/
theorem step_tags_cons (state : IndentState) (body : List Char) :
    state.stepTags (c :: body) = state.stepTags body := by
  have hangle : ∀ rest : List Char, (c :: rest).contains '>' = rest.contains '>' := by
    rcases Indentation.is_indent_cases hc with rfl | rfl <;> intro rest <;> simp
  simp only [stepTags, trim_start_cons hc]
  cases hends : (state.inTag && (['/', '>'].isPrefixOf (trimStart body) ||
      ['>'].isPrefixOf (trimStart body))) with
  | true => rfl
  | false =>
      simp only [Bool.false_eq_true, ↓reduceIte, Markup.occurs_in_cons hc (.inl rfl),
        Markup.occurs_in_cons hc (.inr rfl)]
      cases hdata : (occursIn Markup.dataOpen body && !occursIn Markup.dataClose body) with
      | false =>
          simp only [Bool.false_eq_true, ↓reduceIte, Markup.balance, Markup.balanceAfterLeading,
            Markup.tags_cons hc, Markup.self_closes_cons hc, Markup.ends_in_tag_cons hc, hangle]
      | true =>
          have hopen : (splitOnce Markup.dataOpen body).isSome = true :=
            (Bool.and_eq_true_iff.mp hdata).1
          obtain ⟨⟨before, after⟩, hsplit⟩ := Option.isSome_iff_exists.mp hopen
          simp only [↓reduceIte, Markup.split_once_data_cons hc (.inl rfl), hsplit, Option.map_some,
            Option.getD_some, Markup.balance, Markup.balanceAfterLeading, Markup.tags_cons hc,
            Markup.self_closes_cons hc, Markup.ends_in_tag_cons hc, hangle]

/-- A space or tab in front of a markup line is not seen. -/
theorem step_markup_cons (state : IndentState) (line : List Char) (inComment : Bool) :
    state.stepMarkup (c :: line) inComment = state.stepMarkup line inComment := by
  have hbody : dropEndWhile (fun d => d == '\r' || d == '\n') (c :: line) =
      c :: dropEndWhile (fun d => d == '\r' || d == '\n') line := by
    refine drop_end_while_cons ?_ _
    rcases Indentation.is_indent_cases hc with rfl | rfl <;> rfl
  have hdeclaration : ∀ body, Markup.isDeclaration (c :: body) = Markup.isDeclaration body := by
    intro body
    simp only [Markup.isDeclaration, trim_start_cons hc]
  simp only [stepMarkup, hbody, hdeclaration, Comment.drop_inline_cons hc,
    Comment.split_once_mark_cons hc (.inl rfl), Comment.split_once_mark_cons hc (.inr rfl),
    Markup.split_once_data_cons hc (.inr rfl)]
  generalize dropEndWhile (fun d => d == '\r' || d == '\n') line = body
  split
  · cases splitOnce Comment.closeMark body <;> rfl
  · split
    · cases splitOnce Markup.dataClose body <;> rfl
    · split
      · rfl
      · split
        · cases splitOnce Comment.openMark (Comment.dropInline false body) with
          | none =>
              simp only [Option.map_none, Option.getD_none, is_blank_text_cons hc,
                step_tags_cons hc]
          | some parts =>
              simp only [Option.map_some, Option.getD_some, is_blank_text_cons hc,
                step_tags_cons hc]
        · exact step_tags_cons hc _ _

/-- The depth machine does not see a space or tab in front of a line. -/
theorem step_cons (dialect : Dialect) (state : IndentState) (line : List Char) (inComment : Bool) :
    state.step dialect (c :: line) inComment = state.step dialect line inComment := by
  cases dialect with
  | plain => rfl
  | markup => exact step_markup_cons hc state line inComment
  | script =>
      simp only [step, stepScript, Script.code_of_cons hc, Script.closes_cons hc,
        Script.opens_cons hc]

end IndentState

end ChannelLint
