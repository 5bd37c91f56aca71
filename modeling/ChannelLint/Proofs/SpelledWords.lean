import ChannelLint.Suppression
import ChannelLint.Text.Blank
import ChannelLint.Text.Letter
import Mathlib.Data.List.Forall2

/-!
# Words in any letter case

Keywords are compared without regard to letter case, and this includes the few letters above ASCII
that share a capital with an ASCII letter. `mem_case_variants` says that `caseVariants` lists
whatever has the same letter. Every character of a spelled word has a letter of it
(`Spells.letter`), so that what holds of these few code points holds of the whole word.
-/

namespace ChannelLint.Text

/-! ## Letters -/

/-- A character differs from itself in case only. -/
theorem same_letter_refl (code : Nat) : sameLetter code code = true := by
  unfold sameLetter lowerVariants
  split
  · simp
  · split <;> simp

/-- What has the given lower-case form is listed as such. -/
theorem mem_of_lower_code {code lower : Nat} (h : lowerCode code = lower) :
    code ∈ lower :: (if 97 ≤ lower && lower ≤ 122 then [lower - 32] else []) ++ capitalCodes lower := by
  unfold lowerCode at h
  split at h
  case isTrue =>
      split at h
      case isTrue hcapital =>
          have hletter : (97 ≤ lower && lower ≤ 122) = true := by
            simp only [Bool.and_eq_true, decide_eq_true_eq] at hcapital ⊢
            omega
          have hcode : code = lower - 32 := by omega
          simp [hletter, hcode]
      case isFalse => simp [h]
  case isFalse =>
      split at h
      case h_1 run hrun =>
          have hholds := Array.find?_some hrun
          have hfirst : run.first ≤ code := by
            simp only [CaseRun.holds, Bool.and_eq_true, decide_eq_true_eq] at hholds
            exact hholds.1.1
          have hcode : run.first + (lower - run.lower) = code := by omega
          have hcapital : code ∈ capitalCodes lower := by
            refine List.mem_filterMap.mpr
              ⟨run, Array.mem_toList_iff.mpr (Array.mem_of_find?_eq_some hrun), ?_⟩
            simp only [hcode, hholds, Bool.and_true, decide_eq_true_eq]
            exact if_pos (by omega)
          exact List.mem_append_right _ hcapital
      case h_2 => simp [h]

/-- What has the same letter is listed among the variants of a code point. -/
theorem mem_case_variants {code other : Nat} (h : sameLetter code other = true) :
    other ∈ caseVariants code := by
  have hlower : lowerCode other ∈ lowerVariants (lowerCode code) := by
    unfold sameLetter at h
    split at h
    case isTrue hascii =>
        have heq : lowerCode other = lowerCode code := by
          simp_all [lowerCode, lowerAsciiCode]
        rw [heq, lowerVariants]
        split <;> simp
    case isFalse => exact List.contains_iff_mem.mp h
  exact List.mem_flatMap.mpr ⟨_, hlower, mem_of_lower_code rfl⟩

/-- The code points of whatever has a letter of the word. -/
def wordVariants (word : List Char) : List Nat :=
  word.flatMap fun w => caseVariants w.toNat

/-- Nothing has both letters. -/
def Apart (letter other : Char) : Prop :=
  ∀ code ∈ caseVariants letter.toNat, sameLetter other.toNat code = false

instance (letter other : Char) : Decidable (Apart letter other) :=
  inferInstanceAs (Decidable (∀ _ ∈ _, _))

/-! ## Words -/

/-- The text is the word, letter by letter and without regard to case. -/
def Spells (word taken : List Char) : Prop :=
  List.Forall₂ (fun w c => sameLetter w.toNat c.toNat = true) word taken

instance (word taken : List Char) : Decidable (Spells word taken) :=
  inferInstanceAs (Decidable (List.Forall₂ _ _ _))

namespace Spells

variable {word taken : List Char} (h : Spells word taken)
include h

/-- Whatever spells the word is taken off as the word. -/
theorem drop_word (rest : List Char) : dropWord? word (taken ++ rest) = some rest := by
  induction h with
  | nil => rfl
  | cons hletter _ ih => rw [List.cons_append, dropWord?, if_pos hletter, ih]

/-- What spells a word is not taken off as another one, if nothing has the letters of both at some
place. -/
theorem drop_word_other {other : List Char} (hapart : ∃ pair ∈ word.zip other, Apart pair.1 pair.2)
    (rest : List Char) : dropWord? other (taken ++ rest) = none := by
  induction h generalizing other with
  | nil => simp at hapart
  | @cons w c word taken hletter _ ih =>
      cases other with
      | nil => simp at hapart
      | cons o other =>
          rw [List.cons_append, dropWord?]
          rw [List.zip_cons_cons, List.exists_mem_cons_iff] at hapart
          rcases hapart with hhere | hlater
          · rw [hhere c.toNat (mem_case_variants hletter)]
            rfl
          · rw [ih hlater, ite_self]

/-- What spells a word has only letters of the word. -/
theorem letter {c : Char} (hc : c ∈ taken) : ∃ w ∈ word, sameLetter w.toNat c.toNat = true := by
  induction h with
  | nil => cases hc
  | @cons w _ _ _ hletter _ ih =>
      rcases List.mem_cons.mp hc with rfl | hc
      · exact ⟨w, List.mem_cons_self, hletter⟩
      · obtain ⟨w, hw, hsame⟩ := ih hc
        exact ⟨w, List.mem_cons_of_mem _ hw, hsame⟩

end Spells

/-! ## Blanks -/

/-- The code points of the blanks. -/
def blankCodes : List Nat :=
  List.range' 9 5 ++ List.range' 28 5 ++ List.range' 0x2000 11 ++
    [0x85, 0xa0, 0x1680, 0x2028, 0x2029, 0x202f, 0x205f, 0x3000]

/-- The code point of a blank is one of them. -/
theorem blank_codes_of_blank {c : Char} (h : isBlank c = true) : c.toNat ∈ blankCodes := by
  simp only [isBlank, Bool.or_eq_true, Bool.and_eq_true, decide_eq_true_eq, beq_iff_eq] at h
  simp only [blankCodes, List.mem_append, List.mem_range'_1, List.mem_cons, List.not_mem_nil,
    or_false]
  omega

/-- No blank is a capital. -/
theorem not_capital_of_blank : ∀ code ∈ blankCodes,
    ¬ (65 ≤ code ∧ code ≤ 90) ∧ ∀ run ∈ caseRuns.toList, run.holds code = false := by
  decide +kernel

/-- Blanks are their own lower-case forms. -/
theorem lower_code_of_blank {code : Nat} (h : code ∈ blankCodes) :
    lowerCode code = code ∧ lowerAsciiCode code = code := by
  obtain ⟨hascii, hruns⟩ := not_capital_of_blank code h
  have hnone : caseRuns.find? (·.holds code) = none := by
    rw [Array.find?_eq_none]
    intro run hrun
    simp [hruns run (Array.mem_toList_iff.mpr hrun)]
  simp [lowerCode, lowerAsciiCode, hnone, hascii]

/-- No lower-case form of a letter of the word is a blank. -/
def HasNoBlank (word : List Char) : Prop :=
  ∀ w ∈ word, ∀ lower ∈ lowerAsciiCode w.toNat :: lowerVariants (lowerCode w.toNat),
    lower ∉ blankCodes

instance (word : List Char) : Decidable (HasNoBlank word) :=
  decidable_of_iff (word.all fun w =>
      (lowerAsciiCode w.toNat :: lowerVariants (lowerCode w.toNat)).all fun lower =>
        !blankCodes.contains lower) <| by
    simp [HasNoBlank]

/-- A blank has the letter of a word only if the word has a blank. -/
theorem HasNoBlank.not_same_letter {word : List Char} (h : HasNoBlank word) {w : Char}
    (hw : w ∈ word) {code : Nat} (hcode : code ∈ blankCodes) :
    sameLetter w.toNat code ≠ true := by
  obtain ⟨hlower, hascii⟩ := lower_code_of_blank hcode
  unfold sameLetter
  rw [hlower, hascii]
  split
  · intro hsame
    exact h w hw _ List.mem_cons_self (beq_iff_eq.mp hsame ▸ hcode)
  · intro hsame
    exact h w hw code (List.mem_cons_of_mem _ (List.contains_iff_mem.mp hsame)) hcode

/-- What a word without blanks spells has no blanks. -/
theorem Spells.not_blank {word taken : List Char} (h : Spells word taken) (hword : HasNoBlank word)
    {c : Char} (hc : c ∈ taken) : isBlank c = false := by
  obtain ⟨w, hw, hsame⟩ := h.letter hc
  by_contra hblank
  exact hword.not_same_letter hw (blank_codes_of_blank (by simpa using hblank)) hsame

/-- The code points of a table are those of its intervals, one after the other. -/
theorem CodeTable.contains_eq_any (table : CodeTable) (code : Nat) :
    table.contains code = table.toList.any fun interval => interval.1 ≤ code && code ≤ interval.2 :=
  Array.any_toList.symm

/-- No blank belongs to a word. -/
theorem not_word_of_blank {c : Char} (h : isBlank c = true) : isWord c = false := by
  have hcodes : ∀ code ∈ blankCodes, code ≠ '_'.toNat ∧
      if code < 128 then (Char.ofNat code).isAlphanum = false
      else ∀ table ∈ [letterTable, numeralTable],
        (table.toList.any fun interval => interval.1 ≤ code && code ≤ interval.2) = false := by
    decide +kernel
  obtain ⟨hmark, hcode⟩ := hcodes _ (blank_codes_of_blank h)
  have hne : (c == '_') = false := beq_eq_false_iff_ne.mpr fun heq => hmark (congrArg Char.toNat heq)
  rw [isWord, hne, Bool.false_or, isAlphanumeric]
  split at hcode
  case isTrue hascii =>
      rw [Char.ofNat_toNat] at hcode
      rw [if_pos hascii, hcode]
  case isFalse hascii =>
      rw [if_neg hascii, CodeTable.contains_eq_any, CodeTable.contains_eq_any, hcode letterTable (by simp),
        hcode numeralTable (by simp), Bool.false_or]

/-- Trimming the start of a text drops the blanks in front of a spelled word. -/
theorem trim_start_behind {blanks word taken : List Char} (hblanks : isBlankText blanks = true)
    (hspelled : Spells word taken) (hword : word ≠ [] ∧ HasNoBlank word) (rest : List Char) :
    trimStart (blanks ++ (taken ++ rest)) = taken ++ rest := by
  rw [trimStart, List.dropWhile_append_of_pos (List.all_eq_true.mp hblanks)]
  cases hspelled with
  | nil => exact absurd rfl hword.1
  | cons hletter hmore =>
      exact List.dropWhile_cons_of_neg
        (by simp [(Spells.not_blank (.cons hletter hmore) hword.2 List.mem_cons_self)])

end ChannelLint.Text
