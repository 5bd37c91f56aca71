import ChannelLint.Pattern.Match

/-!
# What a part of a pattern takes

A part passes on places behind the characters it has taken. `Takes` states which characters these
can be, for a part with any continuation: one that passes the test for a single character,
characters that all pass it for a repeated one, none for an anchor. `Takes.seq` and `Takes.alt` put
parts together, and `Regex.match_at_taken` says what follows for the text of a match.
-/

namespace ChannelLint.Pattern

variable {text : Array Char}

/-- The part takes characters of the text that satisfy the condition, and then what follows it is
tried behind them. -/
def Takes (text : Array Char) (condition : List Char → Prop) (part : Continuation → Continuation) :
    Prop :=
  ∀ k place result, part k place = some result →
    ∃ taken next, condition taken ∧ taken <+: text.toList.drop place.pos ∧
      next.pos = place.pos + taken.length ∧ k next = some result

/-- A part that takes what satisfies a condition takes what satisfies a weaker one. -/
theorem Takes.imp {condition weaker : List Char → Prop} {part : Continuation → Continuation}
    (h : Takes text condition part) (himp : ∀ taken, condition taken → weaker taken) :
    Takes text weaker part := by
  intro k place result hrun
  obtain ⟨taken, next, hcondition, hrest⟩ := h k place result hrun
  exact ⟨taken, next, himp taken hcondition, hrest⟩

/-! ## Characters and anchors -/

/-- A single character is one that passes the test. -/
theorem take_char_takes (test : Char → Bool) :
    Takes text (fun taken => ∃ c, taken = [c] ∧ test c = true) (takeChar text test) := by
  intro k place result h
  unfold takeChar at h
  split at h
  case h_1 c hc =>
      split at h
      case isTrue htest =>
          obtain ⟨hlt, rfl⟩ := Array.getElem?_eq_some_iff.mp hc
          refine ⟨[text[place.pos]], place.advance 1, ⟨_, rfl, htest⟩, ?_, rfl, h⟩
          rw [List.drop_eq_getElem_cons (by simpa using hlt), Array.getElem_toList]
          exact List.prefix_append [text[place.pos]] _
      case isFalse => cases h
  case h_2 => cases h

/-- An anchor takes nothing, and it holds at the place where what follows it is tried. -/
theorem anchor_run {flags : Flags} {kind : Anchor} {k : Continuation} {place result : Place}
    (h : (Node.anchor kind).run text flags k place = some result) :
    kind.holds flags text place.pos = true ∧ k place = some result := by
  simp only [Node.run] at h
  split at h
  case isTrue hholds => exact ⟨hholds, h⟩
  case isFalse => cases h

/-- An anchor takes nothing. -/
theorem anchor_takes (flags : Flags) (kind : Anchor) :
    Takes text (· = []) ((Node.anchor kind).run text flags) := by
  intro k place result h
  exact ⟨[], place, rfl, List.nil_prefix, rfl, (anchor_run h).2⟩

/-! ## Repeated characters -/

/-- The characters that are counted pass the test. -/
theorem count_chars_taken (test : Char → Bool) {limit pos count : Nat}
    (h : count ≤ countChars text test limit pos) :
    ((text.toList.drop pos).take count).length = count ∧
      ∀ c ∈ (text.toList.drop pos).take count, test c = true := by
  induction limit generalizing pos count with
  | zero =>
      obtain rfl : count = 0 := Nat.le_zero.mp h
      simp
  | succ limit ih =>
      cases count with
      | zero => simp
      | succ count =>
          unfold countChars at h
          split at h
          case h_1 c hc =>
              split at h
              case isTrue htest =>
                  obtain ⟨hlt, rfl⟩ := Array.getElem?_eq_some_iff.mp hc
                  obtain ⟨hlength, hall⟩ := ih (Nat.le_of_succ_le_succ h)
                  rw [List.drop_eq_getElem_cons (by simpa using hlt), List.take_succ_cons,
                    Array.getElem_toList]
                  exact ⟨by rw [List.length_cons, hlength], List.forall_mem_cons.mpr ⟨htest, hall⟩⟩
              case isFalse => omega
          case h_2 => omega

/-- Trying fewer and fewer characters ends behind a number of them within the bounds. -/
theorem try_down_count {k : Continuation} {place result : Place} {least extra : Nat}
    (h : tryDown k place least extra = some result) :
    ∃ count, count ≤ least + extra ∧ k (place.advance count) = some result := by
  induction extra with
  | zero => exact ⟨least, Nat.le_refl _, h⟩
  | succ extra ih =>
      unfold tryDown at h
      split at h
      case h_1 found hfound =>
          cases h
          exact ⟨_, Nat.le_refl _, hfound⟩
      case h_2 =>
          obtain ⟨count, hle, hk⟩ := ih h
          exact ⟨count, by omega, hk⟩

/-- A character repeated as often as possible takes characters that pass the test. -/
theorem repeat_char_takes (test : Char → Bool) (least : Nat) (most : Option Nat) :
    Takes text (fun taken => ∀ c ∈ taken, test c = true)
      (repeatChar text test least most .greedy) := by
  intro k place result h
  simp only [repeatChar] at h
  split at h
  case isTrue => cases h
  case isFalse henough =>
      obtain ⟨count, hle, hk⟩ := try_down_count h
      rw [Nat.add_sub_cancel' (Nat.le_of_not_lt henough)] at hle
      obtain ⟨hlength, hall⟩ := count_chars_taken test hle
      exact ⟨_, place.advance count, hall, List.take_prefix _ _, by rw [hlength]; rfl, hk⟩

/-! ## Parts put together -/

/-- Two parts in sequence take what the first takes and then what the second takes. -/
theorem Takes.seq {early late : List Char → Prop} {flags : Flags} {first second : Node}
    (hfirst : Takes text early (first.run text flags))
    (hsecond : Takes text late (second.run text flags)) :
    Takes text (fun taken => ∃ before after, taken = before ++ after ∧ early before ∧ late after)
      ((Node.seq first second).run text flags) := by
  intro k place result h
  obtain ⟨before, middle, hearly, hbefore, hmiddle, h⟩ := hfirst _ _ _ h
  obtain ⟨after, next, hlate, hafter, hnext, hk⟩ := hsecond _ _ _ h
  refine ⟨before ++ after, next, ⟨before, after, rfl, hearly, hlate⟩, ?_, ?_, hk⟩
  · obtain ⟨rest, hrest⟩ := hbefore
    rw [hmiddle, ← List.drop_drop, ← hrest, List.drop_left] at hafter
    rw [← hrest]
    exact (List.prefix_append_right_inj before).mpr hafter
  · rw [hnext, hmiddle, List.length_append, Nat.add_assoc]

/-- A choice takes what one of the parts takes. -/
theorem Takes.alt {either other : List Char → Prop} {flags : Flags} {first second : Node}
    (hfirst : Takes text either (first.run text flags))
    (hsecond : Takes text other (second.run text flags)) :
    Takes text (fun taken => either taken ∨ other taken)
      ((Node.alt first second).run text flags) := by
  intro k place result h
  simp only [Node.run] at h
  split at h
  case h_1 found hfound =>
      cases h
      exact hfirst.imp (fun _ => .inl) _ _ _ hfound
  case h_2 => exact hsecond.imp (fun _ => .inr) _ _ _ h

/-! ## Whole patterns -/

/-- The text of a match is what the whole pattern takes. -/
theorem Regex.match_at_taken {regex : Regex} {flags : Flags} {condition : List Char → Prop}
    {pos : Nat} {found : Match}
    (htakes : Takes text condition (regex.root.run text (flags.union regex.flags)))
    (h : regex.matchAt flags text pos = some found) :
    ∃ taken, condition taken ∧ taken <+: text.toList.drop found.start ∧
      found.stop = found.start + taken.length := by
  simp only [Regex.matchAt] at h
  split at h
  case h_1 last hlast =>
      cases h
      obtain ⟨taken, next, hcondition, htaken, hnext, hk⟩ := htakes _ _ _ hlast
      cases hk
      exact ⟨taken, hcondition, htaken, hnext⟩
  case h_2 => cases h

/-- Where a pattern that starts with an anchor matches, the anchor holds. -/
theorem Regex.match_at_anchor {regex : Regex} {flags : Flags} {kind : Anchor} {rest : Node}
    {pos : Nat} {found : Match} (hroot : regex.root = .seq (.anchor kind) rest)
    (h : regex.matchAt flags text pos = some found) :
    kind.holds (flags.union regex.flags) text found.start = true := by
  simp only [Regex.matchAt, hroot] at h
  split at h
  case h_1 last hlast =>
      cases h
      exact (anchor_run hlast).1
  case h_2 => cases h

end ChannelLint.Pattern
