import ChannelLint.Proofs.IgnoreDirective
import ChannelLint.Proofs.ScriptLayout
import ChannelLint.Proofs.SpelledWords

/-!
# The two spellings of else-if

A conditional goes on with `else if` in two words or in one. Both spellings open a block
(`Script.ElseIf.opens_text`), but only two words close the one before (`Script.ElseIf.closes_text`): the
word `else` must end for that, though a compiler directive closes its block with `#elseif` as well.

`Inspection.else_if_joined` says what becomes of a script when a line with two words is written with
one. In no block, nothing. In a block the line stands one level deeper, and so do all lines below it,
until one of them closes a block where none is open in the original.
-/

namespace ChannelLint

open Text

/-- A text without quotes and comment marks is code. -/
theorem Comment.script_code_behind {front : List Char} (h : ∀ c ∈ front, c ≠ '"' ∧ c ≠ scriptMark)
    (rest : List Char) : scriptCode false (front ++ rest) = front ++ scriptCode false rest := by
  induction front with
  | nil => rfl
  | cons c front ih =>
      rw [List.forall_mem_cons] at h
      simp [scriptCode, h.1, ih h.2]

namespace Script

/-! ## Searching through code -/

/-- A part at the start of a text in front of which no word goes on is one, too. -/
theorem word_ends_of_initial {part text : List Char} (hpart : part <+: text)
    (h : wordEnds text = true) : wordEnds part = true := by
  cases part with
  | nil => rfl
  | cons c part =>
      obtain ⟨rest, rfl⟩ := hpart
      exact h

/-- A test of what follows a word holds only where the word does. -/
theorem drop_word_of_word_then {word : String} {test : List Char → Bool} {text : List Char}
    (h : wordThen word test text = true) : (dropWord? word.toList text).isSome = true := by
  unfold wordThen at h
  split at h
  case h_1 heq => rw [heq]; rfl
  case h_2 => cases h

/-- A whole word stands only where the word does. -/
theorem drop_word_of_whole {word : String} {text rest : List Char}
    (h : dropWholeWord? word text = some rest) : (dropWord? word.toList text).isSome = true := by
  unfold dropWholeWord? at h
  split at h
  case h_1 heq => rw [heq]; rfl
  case h_2 => cases h

/-- A search for a word passes over a front whose characters do not have the second letter of the word,
if the last of them does not have the first. -/
theorem somewhere_behind {test : Bool → List Char → Bool} {first second : Char} {word : List Char}
    (htest : ∀ inWord text, test inWord text = true →
      (dropWord? (first :: second :: word) text).isSome = true)
    {front : List Char} {last : Char}
    (hfront : ∀ c ∈ front ++ [last], sameLetter second.toNat c.toNat = false)
    (hlast : sameLetter first.toNat last.toNat = false) (inWord : Bool) (rest : List Char) :
    somewhere test inWord (front ++ last :: rest) = somewhere test (isWord last) rest := by
  have hnone : ∀ inWord text, dropWord? (first :: second :: word) text = none →
      test inWord text = false := by
    intro inWord text hdrop
    rw [← Bool.not_eq_true]
    intro htrue
    have hsome := htest inWord text htrue
    rw [hdrop] at hsome
    cases hsome
  induction front generalizing inWord with
  | nil =>
      have hhere : dropWord? (first :: second :: word) (last :: rest) = none := by
        rw [dropWord?, hlast]
        rfl
      rw [List.nil_append, somewhere, hnone inWord _ hhere, Bool.false_or]
  | cons c front ih =>
      rw [List.cons_append, List.forall_mem_cons] at hfront
      have hhere : dropWord? (first :: second :: word) (c :: (front ++ last :: rest)) = none := by
        obtain ⟨d, more, hmore⟩ := List.exists_cons_of_ne_nil
          (show front ++ last :: rest ≠ [] by simp)
        have hd : sameLetter second.toNat d.toNat = false := by
          refine hfront.2 d ?_
          cases front <;> simp_all
        rw [hmore, dropWord?, dropWord?, hd]
        exact ite_self _
      rw [List.cons_append, somewhere, hnone inWord _ hhere, Bool.false_or, ih hfront.2]

/-! ## Lines with an else-if -/

/-- A line that starts with the words `else` and `if`, in any letter case, up to what stands between
them. -/
structure ElseIf where
  /-- The blanks in front of the line. -/
  lead : List Char
  /-- The word `else` as it is spelled. -/
  elseWord : List Char
  /-- The word `if` as it is spelled. -/
  ifWord : List Char
  /-- What stands behind the words. -/
  rest : List Char
  lead_blank : isBlankText lead = true
  else_spelled : Spells "else".toList elseWord
  if_spelled : Spells "if".toList ifWord
  if_ends : wordEnds rest = true

namespace ElseIf

/-- The line up to the end of the words, with the given text between them. -/
def front (line : ElseIf) (gap : List Char) : List Char :=
  line.lead ++ line.elseWord ++ gap ++ line.ifWord

/-- The line with the given text between the words. -/
def text (line : ElseIf) (gap : List Char) : List Char :=
  line.front gap ++ line.rest

/-- The line without its comment and the line breaks at its end. -/
def code (line : ElseIf) : ElseIf :=
  { line with
    rest := dropBreaks (Comment.scriptCode false line.rest)
    if_ends := word_ends_of_initial
      ((drop_breaks_initial _).trans (Comment.script_code_initial false line.rest)) line.if_ends }

variable (line : ElseIf) {gap : List Char} (hgap : isBlankText gap = true)

/-- The front ends with the last letter of the word `if`. -/
theorem front_last : ∃ (before : List Char → List Char) (last : Char),
    sameLetter 'f'.toNat last.toNat = true ∧ ∀ gap, line.front gap = before gap ++ [last] := by
  obtain ⟨i, more, -, hmore, hword⟩ := List.forall₂_cons_left_iff.mp line.if_spelled
  obtain ⟨f, nothing, hf, hnothing, rfl⟩ := List.forall₂_cons_left_iff.mp hmore
  cases hnothing
  exact ⟨fun gap => line.lead ++ line.elseWord ++ gap ++ [i], f, hf, fun gap => by simp [front, hword]⟩

/-- What does not stand in the line does not stand in it when the words are joined. -/
theorem not_mem_joined {c : Char} {gap : List Char} (h : c ∉ line.text gap) : c ∉ line.text [] := by
  simp_all [text, front]

/-- The words have no blanks. -/
theorem words_have_no_blank : HasNoBlank "else".toList ∧ HasNoBlank "if".toList := by
  decide +kernel

/-- What has a letter of one of the words can stand in a word. -/
theorem word_of_letter {w c : Char} (hw : w ∈ "elseif".toList)
    (hsame : sameLetter w.toNat c.toNat = true) : isWord c = true := by
  have hletters : ∀ code ∈ wordVariants "elseif".toList, isWord (Char.ofNat code) = true := by
    decide +kernel
  have hword := hletters _ (List.mem_flatMap.mpr ⟨w, hw, mem_case_variants hsame⟩)
  rwa [Char.ofNat_toNat] at hword

/-- The line is not blank up to the word `else`. -/
theorem lead_not_blank : isBlankText (line.lead ++ line.elseWord) = false := by
  obtain ⟨e, others, he, hothers, hword⟩ := List.forall₂_cons_left_iff.mp line.else_spelled
  have hblank : isBlank e = false :=
    line.else_spelled.not_blank words_have_no_blank.1 (hword ▸ List.mem_cons_self)
  simp [isBlankText, hword, hblank]

/-- The line is not empty. -/
theorem text_ne_nil (gap : List Char) : line.text gap ≠ [] := by
  intro hnil
  have hblank := line.lead_not_blank
  simp_all [text, front, isBlankText]

/-- The check of the indentation does not see how the words are written. -/
theorem checks_alike (config : IndentConfig) (gap other rest : List Char) :
    Indentation.ChecksAlike config (line.text gap ++ rest) (line.text other ++ rest) := by
  have hstart : ∀ gap, isBlankText (line.text gap ++ rest) = false ∧
      Indentation.leading (line.text gap ++ rest) =
        Indentation.leading (line.lead ++ line.elseWord) := by
    intro gap
    have hsplit : line.text gap ++ rest =
        line.lead ++ line.elseWord ++ (gap ++ line.ifWord ++ line.rest ++ rest) := by
      simp only [text, front, List.append_assoc]
    have hblank := line.lead_not_blank
    rw [hsplit, isBlankText, List.all_append]
    rw [isBlankText] at hblank
    exact ⟨by rw [hblank, Bool.false_and], Indentation.leading_append line.lead_not_blank _⟩
  obtain ⟨hblank, hleading⟩ := hstart gap
  obtain ⟨hblankOther, hleadingOther⟩ := hstart other
  exact Indentation.checks_alike_of_leading (hblank.trans hblankOther.symm)
    (hleading.trans hleadingOther.symm)

/-- Trimming the line leaves the words and what stands behind them. -/
theorem trim_start_text (gap : List Char) :
    trimStart (line.text gap) = line.elseWord ++ (gap ++ (line.ifWord ++ line.rest)) := by
  simp only [text, front, List.append_assoc]
  exact trim_start_behind line.lead_blank line.else_spelled ⟨nofun, words_have_no_blank.1⟩ _

section Front

include hgap

/-- The front of the line has only blanks and letters of both words. -/
theorem letter_front : ∀ c ∈ line.front gap,
    isBlank c = true ∨ ∃ w ∈ "elseif".toList, sameLetter w.toNat c.toNat = true := by
  have hwords : "elseif".toList = "else".toList ++ "if".toList := rfl
  intro c hc
  simp only [front, List.mem_append] at hc
  rcases hc with ((hc | hc) | hc) | hc
  · exact .inl (List.all_eq_true.mp line.lead_blank c hc)
  · obtain ⟨w, hw, hsame⟩ := line.else_spelled.letter hc
    exact .inr ⟨w, hwords ▸ List.mem_append_left _ hw, hsame⟩
  · exact .inl (List.all_eq_true.mp hgap c hc)
  · obtain ⟨w, hw, hsame⟩ := line.if_spelled.letter hc
    exact .inr ⟨w, hwords ▸ List.mem_append_right _ hw, hsame⟩

/-- No quote and no comment mark stands in the front of the line. -/
theorem plain_front : ∀ c ∈ line.front gap, c ≠ '"' ∧ c ≠ Comment.scriptMark := by
  intro c hc
  rcases line.letter_front hgap c hc with hblank | ⟨w, hw, hsame⟩
  · constructor <;> rintro rfl <;> exact absurd hblank (by decide)
  · have hword := word_of_letter hw hsame
    constructor <;> rintro rfl <;> exact absurd hword (by decide)

/-- The code of the line is its front and the code of the rest. -/
theorem code_of_text {terminator : List Char} (hunbroken : '\n' ∉ line.text gap)
    (hterminator : IsTerminator terminator) :
    codeOf (line.text gap ++ terminator) = line.code.text gap := by
  obtain ⟨before, last, hlast, hfront⟩ := line.front_last
  have hword : isWord last = true := word_of_letter (by simp) hlast
  have hbreak : last ≠ '\r' ∧ last ≠ '\n' := by
    constructor <;> rintro rfl <;> exact absurd hword (by decide)
  show dropBreaks _ = line.front gap ++ dropBreaks (Comment.scriptCode false line.rest)
  rw [Comment.strip_script_append hunbroken hterminator, drop_breaks_append _ hterminator, text,
    Comment.script_code_behind (line.plain_front hgap), hfront, List.append_assoc,
    List.singleton_append, drop_breaks_behind hbreak, ← List.append_cons]

/-- A search for a word whose first letters the front does not have finds the same for all blanks
between the words. -/
theorem somewhere_text {test : Bool → List Char → Bool} (word : String) {first second : Char}
    {others : List Char} (hword : word.toList = first :: second :: others)
    (htest : ∀ inWord text, test inWord text = true → (dropWord? word.toList text).isSome = true)
    (hblanks : HasNoBlank [second])
    (hsecond : ∀ code ∈ caseVariants second.toNat, ∀ letter ∈ "elseif".toList.map Char.toNat,
      sameLetter letter code = false)
    (hfirst : Apart 'f' first) (inWord : Bool) :
    somewhere test inWord (line.text gap) = somewhere test inWord (line.text []) := by
  rw [hword] at htest
  obtain ⟨before, last, hlast, hfront⟩ := line.front_last
  have hend : sameLetter first.toNat last.toNat = false := hfirst _ (mem_case_variants hlast)
  have hskip : ∀ gap, isBlankText gap = true →
      somewhere test inWord (line.text gap) = somewhere test (isWord last) line.rest := by
    intro gap hgap
    have hletters : ∀ c ∈ line.front gap, sameLetter second.toNat c.toNat = false := by
      intro c hc
      rw [← Bool.not_eq_true]
      intro hsame
      rcases line.letter_front hgap c hc with hblank | ⟨w, hw, hletter⟩
      · exact hblanks.not_same_letter List.mem_cons_self (blank_codes_of_blank hblank) hsame
      · have hapart := hsecond _ (mem_case_variants hsame) _ (List.mem_map_of_mem hw)
        cases hletter.symm.trans hapart
    rw [hfront] at hletters
    rw [text, hfront, List.append_assoc, List.singleton_append]
    exact somewhere_behind htest hletters hend inWord line.rest
  rw [hskip gap hgap, hskip [] rfl]

/-- The line is a conditional. -/
theorem is_conditional_text : isConditional (line.text gap) = true := by
  have hif : trimStart (gap ++ (line.ifWord ++ line.rest)) = line.ifWord ++ line.rest :=
    trim_start_behind hgap line.if_spelled ⟨nofun, words_have_no_blank.2⟩ _
  have helse : startsWithElseIf (trimStart (line.text gap)) = true := by
    rw [trim_start_text, startsWithElseIf, wordThen, line.else_spelled.drop_word]
    simp only [hif, startsWithWord, dropWholeWord?, List.any_cons, line.if_spelled.drop_word,
      line.if_ends, ↓reduceIte, Option.isSome_some, Bool.true_or]
  rw [isConditional, helse, Bool.or_true]

/-- The line opens a block or not whichever blanks stand between the words. -/
theorem opens_text : opens (line.text gap) = opens (line.text []) := by
  have hinline : endsFunctionInline (line.text gap) = endsFunctionInline (line.text []) :=
    line.somewhere_text hgap "end" rfl
      (fun _ _ htest => drop_word_of_word_then (Bool.and_eq_true_iff.mp htest).2)
      (by decide +kernel) (by decide +kernel) (by decide +kernel) false
  have hstatement : hasStatementAfterThen (line.text gap) = hasStatementAfterThen (line.text []) := by
    refine line.somewhere_text hgap "then" rfl (fun _ text htest => ?_)
      (by decide +kernel) (by decide +kernel) (by decide +kernel) false
    have hthen := (Bool.and_eq_true_iff.mp htest).2
    split at hthen
    case h_1 hwhole => exact drop_word_of_whole hwhole
    case h_2 => cases hthen
  rw [opens, opens, hinline, hstatement, line.is_conditional_text hgap,
    line.is_conditional_text (rfl : isBlankText [] = true), if_pos rfl, if_pos rfl]

/-- The word `else` ends if blanks stand behind it. -/
theorem word_ends_gap : wordEnds (gap ++ (line.ifWord ++ line.rest)) = !gap.isEmpty := by
  cases gap with
  | nil =>
      obtain ⟨i, more, hi, -, hword⟩ := List.forall₂_cons_left_iff.mp line.if_spelled
      have hstart : isWord i = true := word_of_letter (show 'i' ∈ _ by simp) hi
      rw [hword, List.nil_append, List.cons_append, wordEnds, hstart]
      rfl
  | cons g gap =>
      have hstart := not_word_of_blank (List.all_eq_true.mp hgap g List.mem_cons_self)
      rw [List.cons_append, wordEnds, hstart]
      rfl

/-- The line closes a block exactly if blanks stand between the words. -/
theorem closes_text : closes (line.text gap) = !gap.isEmpty := by
  obtain ⟨e, others, he, -, helse⟩ := List.forall₂_cons_left_iff.mp line.else_spelled
  have hstart : isWord e = true := word_of_letter (show 'e' ∈ _ by simp) he
  have hmarks : e ∉ ['}', ']', ')', '#'] := by
    have hnone : ['}', ']', ')', '#'].all (fun mark => !isWord mark) = true := by decide
    intro hmem
    simpa [hstart] using List.all_eq_true.mp hnone e hmem
  have hother : ∀ other ∈ ["end", "next", "catch"],
      dropWord? other.toList (trimStart (line.text gap)) = none := by
    intro other hother
    rw [trim_start_text]
    refine line.else_spelled.drop_word_other ?_ _
    revert other
    decide +kernel
  have hdirective : ∀ test, directiveThen test (trimStart (line.text gap)) = false := by
    intro test
    rw [trim_start_text, helse, List.cons_append, directiveThen]
    rintro rest heq
    obtain rfl := (List.cons.inj heq).1
    simp at hmarks
  have hbracket : ['}', ']', ')'].contains e = false := by
    rw [← Bool.not_eq_true, List.contains_iff_mem]
    exact fun hmem => hmarks (List.mem_append_left ['#'] hmem)
  have hword : dropWord? "else".toList (trimStart (line.text gap)) =
      some (gap ++ (line.ifWord ++ line.rest)) := by
    rw [trim_start_text]
    exact line.else_spelled.drop_word _
  simp only [closes, hdirective, wordThen, isWordAlone, startsWithWord, dropWholeWord?,
    List.any_cons, List.any_nil, hother "end" (by simp), hother "next" (by simp),
    hother "catch" (by simp), hword, line.word_ends_gap hgap]
  rw [trim_start_text, helse, List.cons_append]
  simp only [hbracket]
  cases gap.isEmpty <;> rfl

end Front

end ElseIf

end Script

/-! ## A level more -/

namespace IndentState

/-- The state with one more open block. -/
def deeper (state : IndentState) : IndentState :=
  { state with depth := state.depth + 1 }

/-- With one more open block the next line is one level deeper. -/
theorem opened_deeper (state : IndentState) : state.deeper.opened = state.opened + 1 := by
  unfold opened deeper
  split <;> rfl

/-- Reading a script line, by what it opens and closes. -/
theorem step_script_eq (state : IndentState) (line : List Char) :
    let depth := if Script.closes (Script.codeOf line) then state.opened - 1 else state.opened
    state.stepScript line =
      ⟨{ state with depth := depth, pendingOpen := Script.opens (Script.codeOf line) }, some depth⟩ :=
  rfl

/-- Whether every one of the script lines that closes a block finds one open. -/
def hasBlocks (state : IndentState) : List (List Char) → Bool
  | [] => true
  | line :: rest =>
      (!Script.closes (Script.codeOf line) || 0 < state.opened) &&
        (state.stepScript line).next.hasBlocks rest

/-- The lines find blocks to close if the first does, and the others do behind it. -/
theorem has_blocks_cons (state : IndentState) (line : List Char) (rest : List (List Char)) :
    state.hasBlocks (line :: rest) =
      (state.hasBlocks [line] && (state.stepScript line).next.hasBlocks rest) := by
  simp only [hasBlocks, Bool.and_true]

/-- Behind a line that finds a block to close there is still one more block, and behind one that does
not there is none more. -/
theorem step_script_deeper (state : IndentState) (line : List Char) :
    (state.deeper.stepScript line).next =
      if state.hasBlocks [line] then (state.stepScript line).next.deeper
      else (state.stepScript line).next := by
  simp only [step_script_eq, opened_deeper, hasBlocks, Bool.and_true]
  cases hcloses : Script.closes (Script.codeOf line) with
  | false => rfl
  | true =>
      by_cases hopened : 0 < state.opened
      · have hdepth : state.opened + 1 - 1 = state.opened - 1 + 1 := by omega
        simp [hopened, deeper, hdepth]
      · have hzero : state.opened = 0 := by omega
        simp [hzero, deeper]

end IndentState

namespace Indentation

/-- The run over the lines of a script. -/
def runScript (state : IndentState) (lines : List (List Char)) : List IndentStep :=
  run .script state (lines.map fun line => (line, false))

/-- The first line of a script makes its step, and the others are read behind it. -/
theorem run_script_cons (state : IndentState) (line : List Char) (lines : List (List Char)) :
    runScript state (line :: lines) =
      state.stepScript line :: runScript (state.stepScript line).next lines := rfl

/-- Scripts are read one after the other. -/
theorem run_script_append (state : IndentState) (first second : List (List Char)) :
    runScript state (first ++ second) =
      runScript state first ++ runScript (endState state (runScript state first)) second := by
  rw [runScript, List.map_append, run_append]
  rfl

/-- The first steps are those of the first lines. -/
theorem run_script_take (state : IndentState) (lines : List (List Char)) (count : Nat) :
    (runScript state lines).take count = runScript state (lines.take count) := by
  induction lines generalizing state count with
  | nil => simp [runScript, run]
  | cons line lines ih =>
      cases count with
      | zero => rfl
      | succ count => rw [run_script_cons, List.take_succ_cons, List.take_succ_cons, ih, run_script_cons]

/-- There is a step for each line of a script. -/
theorem run_script_length (state : IndentState) (lines : List (List Char)) :
    (runScript state lines).length = lines.length := by
  rw [runScript, run_length, List.length_map]

/-- With one more block open at the start, every depth is one more, as long as every line that closes a
block finds one open without it. -/
theorem run_script_deeper (state : IndentState) (lines : List (List Char)) (index : Nat) :
    (runScript state.deeper lines)[index]?.map (·.next.depth) =
      (runScript state lines)[index]?.map fun step =>
        step.next.depth + if state.hasBlocks (lines.take (index + 1)) then 1 else 0 := by
  induction lines generalizing state index with
  | nil => rfl
  | cons line lines ih =>
      have hstep := state.step_script_deeper line
      rw [run_script_cons, run_script_cons, List.take_succ_cons, state.has_blocks_cons]
      cases index with
      | zero =>
          simp only [List.getElem?_cons_zero, Option.map_some, hstep, List.take_zero]
          cases state.hasBlocks [line] <;> rfl
      | succ index =>
          simp only [List.getElem?_cons_succ, hstep]
          cases state.hasBlocks [line] with
          | false => rfl
          | true => exact ih _ index

/-! ## A line that no longer closes a block -/

/-- The second line opens a block if the first does, and closes none though the first does. -/
structure Unclosed (line other : List Char) : Prop where
  closes : Script.closes (Script.codeOf line) = true
  keeps : Script.closes (Script.codeOf other) = false
  opens : Script.opens (Script.codeOf other) = Script.opens (Script.codeOf line)

variable {line other : List Char} (h : Unclosed line other)
include h

/-- Where no block is open, both lines make the same step. -/
theorem Unclosed.step_eq {state : IndentState} (hopened : state.opened = 0) :
    state.stepScript other = state.stepScript line := by
  simp only [state.step_script_eq, h.closes, h.keeps, h.opens, hopened, Bool.false_eq_true, ↓reduceIte]

/-- Where a block is open, one more is so behind the second line. -/
theorem Unclosed.step_deeper {state : IndentState} (hopened : 0 < state.opened) :
    (state.stepScript other).next = (state.stepScript line).next.deeper := by
  have hdepth : state.opened = state.opened - 1 + 1 := by omega
  simp only [state.step_script_eq, h.closes, h.keeps, h.opens, Bool.false_eq_true, ↓reduceIte,
    IndentState.deeper, ← hdepth]

/-- With the second line in place of the first a script has the same steps if no block is open in front
of it. Else every depth from there on is one more, as long as every line behind it that closes a block
finds one open in the script with the first line. -/
theorem Unclosed.run_script (start : IndentState) (front below : List (List Char)) :
    let before := endState start (runScript start front)
    let after := (before.stepScript line).next
    (before.opened = 0 →
        runScript start (front ++ other :: below) = runScript start (front ++ line :: below)) ∧
      (0 < before.opened → ∀ count,
        (runScript start (front ++ other :: below))[front.length + count]?.map (·.next.depth) =
          (runScript start (front ++ line :: below))[front.length + count]?.map fun step =>
            step.next.depth + if after.hasBlocks (below.take count) then 1 else 0) := by
  intro before after
  rw [run_script_append, run_script_append, run_script_cons, run_script_cons]
  refine ⟨fun hopened => by rw [h.step_eq hopened], fun hopened count => ?_⟩
  have hdeeper := h.step_deeper hopened
  have hlength := run_script_length start front
  rw [List.getElem?_append_right (by omega), List.getElem?_append_right (by omega), hlength,
    Nat.add_sub_cancel_left]
  cases count with
  | zero =>
      simp only [List.getElem?_cons_zero, Option.map_some]
      exact congrArg (fun state : IndentState => some state.depth) hdeeper
  | succ count =>
      simp only [List.getElem?_cons_succ]
      rw [show (before.stepScript other).next = after.deeper from hdeeper]
      exact run_script_deeper after below count

end Indentation

namespace Text

/-- The line with another body. -/
def withBody (body line : List Char) : List Char :=
  body ++ (splitTerminator line).2

end Text

namespace Inspection

open Indentation Comment

/-- The steps of the depth machine on a script. -/
def scriptSteps (text : List Char) : List IndentStep :=
  indentSteps .script (stripLines .script .outside (splitLines text))

/-- The depth machine reads the raw lines of a script. -/
theorem script_steps_eq (text : List Char) : scriptSteps text = runScript {} (splitLines text) := by
  rw [scriptSteps, indentSteps, strip_lines_script, List.map_map]
  rfl

/-- The states in front of a line of a script and behind it, and the lines below it. -/
theorem states_at_line {text row : List Char} {front below : List (List Char)} {index : Nat}
    (hlines : splitLines text = front ++ row :: below) (hlength : front.length = index) :
    let before := endState {} ((scriptSteps text).take index)
    before = endState {} (runScript {} front) ∧
      endState {} ((scriptSteps text).take (index + 1)) = (before.stepScript row).next ∧
      (splitLines text).drop (index + 1) = below := by
  have hnext : (front ++ [row]).length = index + 1 := by simp [hlength]
  have hbefore : endState {} ((scriptSteps text).take index) = endState {} (runScript {} front) := by
    rw [script_steps_eq, run_script_take, hlines, List.take_left' hlength]
  refine ⟨hbefore, ?_, by rw [hlines, List.append_cons, List.drop_left' hnext]⟩
  rw [hbefore, script_steps_eq, run_script_take, hlines, List.append_cons, List.take_left' hnext,
    run_script_append, run_script_cons, endState, List.getLast?_append]
  rfl

/-- The lines of a script in which one line has another body. -/
theorem split_lines_with_body {body : List Char} (hbody : '\n' ∉ body) (hne : body ≠ []) (index : Nat)
    (text : List Char) :
    splitLines (modifyLine (withBody body) index text) =
      (splitLines text).modify index (withBody body) := by
  refine split_lines_of_stands_in (forall₂_modify .refl fun line _ =>
    ⟨?_, fun _ => by simp [withBody, hne]⟩)
  rintro own terminator hown hterminator rfl
  exact ⟨body, hbody, by rw [withBody, split_terminator_append hown hterminator]⟩

/-- Of the two spellings of a line only the one with two words closes a block. -/
theorem unclosed_joined (line : Script.ElseIf) {gap terminator : List Char}
    (hgap : isBlankText gap = true) (hne : gap ≠ []) (hunbroken : '\n' ∉ line.text gap)
    (hterminator : IsTerminator terminator) :
    Unclosed (line.text gap ++ terminator) (line.text [] ++ terminator) := by
  have hjoined : '\n' ∉ line.text [] := line.not_mem_joined hunbroken
  have htwo := line.code_of_text hgap hunbroken hterminator
  have hone := line.code_of_text rfl hjoined hterminator
  refine ⟨?_, ?_, ?_⟩
  · rw [htwo, Script.ElseIf.closes_text _ hgap]
    simpa using hne
  · rw [hone, Script.ElseIf.closes_text _ rfl]
    rfl
  · rw [hone, htwo, ← Script.ElseIf.opens_text _ hgap]

/-- A script in which a line has its two words joined has the same lines in front of it and below it. -/
theorem lines_of_joined {text row : List Char} {index : Nat} {line : Script.ElseIf} {gap : List Char}
    (hrow : (splitLines text)[index]? = some row)
    (hline : (splitTerminator row).1 = line.text gap) :
    ∃ front terminator below, '\n' ∉ line.text gap ∧ IsTerminator terminator ∧
      front.length = index ∧
      splitLines text = front ++ (line.text gap ++ terminator) :: below ∧
      splitLines (modifyLine (withBody (line.text [])) index text) =
        front ++ (line.text [] ++ terminator) :: below := by
  obtain ⟨hlt, -⟩ := List.getElem?_eq_some_iff.mp hrow
  obtain ⟨front, first, below, hlines, hlength, hmodify⟩ :=
    List.exists_of_modify (withBody (line.text [])) hlt
  obtain rfl : row = first := by
    rw [hlines, ← hlength] at hrow
    simpa using hrow.symm
  obtain ⟨body, terminator, hbody, hterminator, rfl⟩ :=
    (split_lines_rows text).body_of_mem (List.mem_of_getElem? hrow)
  rw [split_terminator_append hbody hterminator] at hline
  obtain rfl : body = line.text gap := hline
  refine ⟨front, terminator, below, hbody, hterminator, hlength, hlines, ?_⟩
  rw [split_lines_with_body (line.not_mem_joined hbody) (line.text_ne_nil []) index text, hmodify,
    withBody, split_terminator_append hbody hterminator]

/-- When a line of a script that starts with `else` and `if` is written with one word for both, the
depths after the lines stay what they were exactly if no block is open in front of the line, and then
all steps and the flagged lines do. Else the line stands one level deeper, and so does every line below
it, as long as each of the lines up to there that closes a block finds one open in the original. -/
theorem else_if_joined {text row : List Char} {index : Nat} {line : Script.ElseIf} {gap : List Char}
    (hrow : (splitLines text)[index]? = some row)
    (hline : (splitTerminator row).1 = line.text gap) (hgap : isBlankText gap = true) (hne : gap ≠ []) :
    let joined := modifyLine (withBody (line.text [])) index text
    let before := endState {} ((scriptSteps text).take index)
    let after := endState {} ((scriptSteps text).take (index + 1))
    ((scriptSteps joined).map (·.next.depth) = (scriptSteps text).map (·.next.depth) ↔
        before.opened = 0) ∧
      (before.opened = 0 → scriptSteps joined = scriptSteps text ∧
        ∀ config, misindented config .script (stripLines .script .outside (splitLines joined)) =
          misindented config .script (stripLines .script .outside (splitLines text))) ∧
      (0 < before.opened → ∀ count,
        (scriptSteps joined)[index + count]?.map (·.next.depth) =
          (scriptSteps text)[index + count]?.map fun step => step.next.depth +
            if after.hasBlocks (((splitLines text).drop (index + 1)).take count) then 1 else 0) := by
  intro joined before after
  obtain ⟨front, terminator, below, hbody, hterminator, hlength, hlines, hjoined⟩ :=
    lines_of_joined hrow hline
  obtain ⟨hbefore, hafter, hbelow⟩ := states_at_line hlines hlength
  obtain ⟨hsame, hdeeper⟩ :=
    (unclosed_joined line hgap hne hbody hterminator).run_script {} front below
  rw [← hbefore, ← hlines, ← hjoined, ← script_steps_eq, ← script_steps_eq] at hsame
  rw [← hbefore, ← hafter, ← hlines, ← hjoined, ← script_steps_eq, ← script_steps_eq, hlength,
    ← hbelow] at hdeeper
  refine ⟨⟨fun hdepths => ?_, fun hopened => by rw [hsame hopened]⟩,
    fun hopened => ⟨hsame hopened, fun config => ?_⟩, hdeeper⟩
  · -- in a block the depth after the line itself is another
    by_contra hopened
    have hindex : index < (scriptSteps text).length := by
      rw [script_steps_eq, run_script_length]
      exact (List.getElem?_eq_some_iff.mp hrow).1
    have hhere := hdeeper (Nat.pos_of_ne_zero hopened) 0
    rw [Nat.add_zero, ← List.getElem?_map, hdepths, List.getElem?_map,
      List.getElem?_eq_getElem hindex] at hhere
    simp [IndentState.hasBlocks] at hhere
  · refine (misindented_congr ?_ (hsame hopened).symm).symm
    have hkept : ∀ lines, List.Forall₂ (ChecksAlike config) lines lines :=
      fun lines => List.forall₂_same.mpr fun _ _ _ => ⟨rfl, rfl⟩
    rw [strip_lines_raw, strip_lines_raw, hlines, hjoined]
    exact List.rel_append (hkept front)
      (.cons (line.checks_alike config gap [] terminator) (hkept below))

/-- In a conditional within a function, in capitals: the end of a function below that has none to close
takes the additional level back. -/
theorem else_if_joined_capitals :
    let text := "sub a()\n  If x Then\n  ELSE  If (y) Then\n  end if\nend sub\nend sub\n".toList
    let row := "  ELSE  If (y) Then\n".toList
    let line : Script.ElseIf := ⟨"  ".toList, "ELSE".toList, "If".toList, " (y) Then".toList,
      by decide +kernel, by decide +kernel, by decide +kernel, by decide +kernel⟩
    let joined := modifyLine (withBody (line.text [])) 2 text
    let before := endState {} ((scriptSteps text).take 2)
    let after := endState {} ((scriptSteps text).take 3)
    (splitLines text)[2]? = some row ∧ (splitTerminator row).1 = line.text "  ".toList ∧
      joined = "sub a()\n  If x Then\n  ELSEIf (y) Then\n  end if\nend sub\nend sub\n".toList ∧
      before.opened = 2 ∧
      ((scriptSteps joined).map (·.next.depth) = (scriptSteps text).map (·.next.depth) ↔
        before.opened = 0) ∧
      (∀ count, (scriptSteps joined)[2 + count]?.map (·.next.depth) =
        (scriptSteps text)[2 + count]?.map fun step => step.next.depth +
          if after.hasBlocks (((splitLines text).drop 3).take count) then 1 else 0) ∧
      (scriptSteps text).map (·.next.depth) = [0, 1, 1, 1, 0, 0] ∧
      (scriptSteps joined).map (·.next.depth) = [0, 1, 2, 2, 1, 0] := by
  intro text row line joined before after
  have hrow : (splitLines text)[2]? = some row := by decide +kernel
  have hline : (splitTerminator row).1 = line.text "  ".toList := by decide +kernel
  have hbefore : before.opened = 2 := by decide +kernel
  obtain ⟨hdepths, -, hdeeper⟩ := else_if_joined hrow hline (by decide +kernel) (by decide +kernel)
  exact ⟨hrow, hline, by decide +kernel, hbefore, hdepths, hdeeper (hbefore ▸ Nat.two_pos),
    by decide +kernel, by decide +kernel⟩

/-- In a block, one word in place of two changes the depths of the lines behind it, and these are
flagged. -/
theorem else_if_joined_in_block :
    let text := "if a then\nelse if b then\nend if\n".toList
    let joined := "if a then\nelseif b then\nend if\n".toList
    joined = modifyLine (withBody "elseif b then".toList) 1 text ∧
      (scriptSteps text).map (·.next.depth) = [0, 0, 0] ∧
      (scriptSteps joined).map (·.next.depth) = [0, 1, 1] ∧
      misindented ⟨.space, 4⟩ .script (stripLines .script .outside (splitLines text)) = .ok [] ∧
      misindented ⟨.space, 4⟩ .script (stripLines .script .outside (splitLines joined)) =
        .ok [1, 2] := by
  decide +kernel

end Inspection

end ChannelLint
