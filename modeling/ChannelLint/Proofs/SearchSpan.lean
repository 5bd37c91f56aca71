import ChannelLint.Pattern.Match

/-!
# Matching goes forward

A part of a pattern passes on only places that do not lie before its own and do not leave the text.
`Forward` states this for a part with any continuation, `Node.run_forward` proves it for every part,
one construct at a time, and `Regex.search_span` is what follows for the spans that a search returns.
Looks behind are no exception: what follows them is tried where they started.
-/

namespace ChannelLint.Pattern

variable {text : Array Char}

/-- The result is what the continuation gives at some place of the text from the given one on. -/
def Reaches (text : Array Char) (k : Continuation) (place result : Place) : Prop :=
  ∃ next, place.pos ≤ next.pos ∧ next.pos ≤ text.size ∧ k next = some result

/-- A part goes forward: from a place of the text it reaches only places from there on. -/
def Forward (text : Array Char) (part : Continuation → Continuation) : Prop :=
  ∀ k place result, place.pos ≤ text.size → part k place = some result →
    Reaches text k place result

/-- What the continuation gives at the place itself is reached. -/
theorem Reaches.here {k : Continuation} {place result : Place} (hplace : place.pos ≤ text.size)
    (h : k place = some result) : Reaches text k place result :=
  ⟨place, Nat.le_refl _, hplace, h⟩

/-- What the continuation gives at the same position with other marks is reached. -/
theorem Reaches.with_marks {k : Continuation} {place result : Place}
    {marks : Array (Option Nat)} (hplace : place.pos ≤ text.size)
    (h : k ⟨place.pos, marks⟩ = some result) : Reaches text k place result :=
  ⟨⟨place.pos, marks⟩, Nat.le_refl _, hplace, h⟩

/-- What is reached from a later place is reached from an earlier one. -/
theorem Reaches.from_earlier {k : Continuation} {place later result : Place}
    (h : Reaches text k later result) (hle : place.pos ≤ later.pos) :
    Reaches text k place result := by
  obtain ⟨next, hnext, hsize, hk⟩ := h
  exact ⟨next, Nat.le_trans hle hnext, hsize, hk⟩

/-- A part that goes forward, followed by one that does. -/
theorem Forward.reaches_then {part after : Continuation → Continuation} (hpart : Forward text part)
    (hafter : Forward text after) {k : Continuation} {place result : Place}
    (hplace : place.pos ≤ text.size) (h : part (after k) place = some result) :
    Reaches text k place result := by
  obtain ⟨next, hnext, hsize, hk⟩ := hpart _ _ _ hplace h
  exact (hafter _ _ _ hsize hk).from_earlier hnext

/-- A part on its own ends at a place of the text from its own on. -/
theorem Forward.span {part : Continuation → Continuation} (hpart : Forward text part)
    {place result : Place} (hplace : place.pos ≤ text.size) (h : part some place = some result) :
    place.pos ≤ result.pos ∧ result.pos ≤ text.size := by
  obtain ⟨next, hnext, hsize, hk⟩ := hpart _ _ _ hplace h
  cases hk
  exact ⟨hnext, hsize⟩

/-! ## Single characters -/

/-- A single character goes one place forward. -/
theorem take_char_forward (test : Char → Bool) : Forward text (takeChar text test) := by
  intro k place result hplace h
  unfold takeChar at h
  split at h
  case h_1 c hc =>
      have hlt : place.pos < text.size := (Array.getElem?_eq_some_iff.mp hc).1
      split at h
      · exact (Reaches.here (Nat.succ_le_of_lt hlt) h).from_earlier (Nat.le_succ _)
      · cases h
  case h_2 => cases h

/-- Characters are counted within the text. -/
theorem count_chars_le (test : Char → Bool) (limit pos : Nat) (hpos : pos ≤ text.size) :
    pos + countChars text test limit pos ≤ text.size := by
  induction limit generalizing pos with
  | zero => exact hpos
  | succ limit ih =>
      unfold countChars
      split
      case h_1 c hc =>
          have hlt : pos < text.size := (Array.getElem?_eq_some_iff.mp hc).1
          split
          · have hrest := ih (pos + 1) hlt
            omega
          · exact hpos
      case h_2 => exact hpos

/-- Trying fewer and fewer characters goes forward when there are enough of them. -/
theorem try_down_reaches {k : Continuation} {place result : Place} {least extra : Nat}
    (hplace : place.pos + (least + extra) ≤ text.size)
    (h : tryDown k place least extra = some result) : Reaches text k place result := by
  induction extra with
  | zero =>
      exact (Reaches.here hplace h).from_earlier (Nat.le_add_right _ _)
  | succ extra ih =>
      unfold tryDown at h
      split at h
      case h_1 found hfound =>
          cases h
          exact (Reaches.here hplace hfound).from_earlier (Nat.le_add_right _ _)
      case h_2 => exact ih (by omega) h

/-- Trying more and more characters goes forward. -/
theorem try_up_forward (test : Char → Bool) (more : Nat) :
    Forward text fun k => tryUp text test k more := by
  induction more with
  | zero => exact fun k place result hplace h => .here hplace h
  | succ more ih =>
      intro k place result hplace h
      simp only [tryUp] at h
      split at h
      case h_1 found hfound =>
          cases h
          exact .here hplace hfound
      case h_2 => exact (take_char_forward test).reaches_then ih hplace h

/-- A repeated character goes forward. -/
theorem repeat_char_forward (test : Char → Bool) (least : Nat) (most : Option Nat) (greed : Greed) :
    Forward text (repeatChar text test least most greed) := by
  intro k place result hplace h
  cases greed with
  | greedy =>
      simp only [repeatChar] at h
      split at h
      · cases h
      · refine try_down_reaches ?_ h
        rw [Nat.add_sub_cancel' (by omega)]
        exact count_chars_le test _ _ hplace
  | reluctant =>
      simp only [repeatChar] at h
      split at h
      · cases h
      · have hcount := count_chars_le test least _ hplace
        have hleast : (place.advance least).pos ≤ text.size := by
          simp only [Place.advance]
          omega
        exact (try_up_forward test _ _ _ _ hleast h).from_earlier (Nat.le_add_right _ _)
  | possessive =>
      simp only [repeatChar] at h
      split at h
      · cases h
      · have hcount := count_chars_le test
          (min (most.getD (text.size - place.pos)) (text.size - place.pos)) _ hplace
        exact (Reaches.here hcount h).from_earlier (Nat.le_add_right _ _)

/-! ## Repetition of a part -/

section Repetition

variable {body : Continuation → Continuation} (hbody : Forward text body) (least : Nat)
  (most : Option Nat)
include hbody

/-- Repetition with as many rounds as possible goes forward. -/
theorem repeat_greedy_forward (fuel count : Nat) (last : Option Nat) :
    Forward text fun k => repeatGreedy body least most k fuel count last := by
  induction fuel generalizing count last with
  | zero => intro k place result hplace h; cases h
  | succ fuel ih =>
      intro k place result hplace h
      simp only [repeatGreedy] at h
      -- a round that is required, one that is possible, or none
      split at h
      · exact hbody.reaches_then (ih _ _) hplace h
      · split at h
        · split at h
          case h_1 found hfound =>
              cases h
              exact hbody.reaches_then (ih _ _) hplace hfound
          case h_2 => exact .here hplace h
        · exact .here hplace h

/-- Repetition with as few rounds as possible goes forward. -/
theorem repeat_reluctant_forward (fuel count : Nat) (last : Option Nat) :
    Forward text fun k => repeatReluctant body least most k fuel count last := by
  induction fuel generalizing count last with
  | zero => intro k place result hplace h; cases h
  | succ fuel ih =>
      intro k place result hplace h
      simp only [repeatReluctant] at h
      split at h
      · exact hbody.reaches_then (ih _ _) hplace h
      · split at h
        case h_1 found hfound =>
            cases h
            exact .here hplace hfound
        case h_2 =>
            split at h
            · exact hbody.reaches_then (ih _ _) hplace h
            · cases h

/-- Repetition without going back ends at a place of the text from its start on. -/
theorem repeat_possessive_span (fuel count : Nat) (last : Option Nat) {place result : Place}
    (hplace : place.pos ≤ text.size)
    (h : repeatPossessive body least most fuel count last place = some result) :
    place.pos ≤ result.pos ∧ result.pos ≤ text.size := by
  induction fuel generalizing count last place with
  | zero => cases h
  | succ fuel ih =>
      -- each round ends where the next one starts
      have hround : ∀ {next count last}, body some place = some next →
          repeatPossessive body least most fuel count last next = some result →
          place.pos ≤ result.pos ∧ result.pos ≤ text.size := by
        intro next count last hnext hrest
        obtain ⟨hle, hsize⟩ := hbody.span hplace hnext
        obtain ⟨hle', hsize'⟩ := ih _ _ hsize hrest
        exact ⟨Nat.le_trans hle hle', hsize'⟩
      simp only [repeatPossessive] at h
      split at h
      · split at h
        case h_1 next hnext => exact hround hnext h
        case h_2 => cases h
      · split at h
        · split at h
          case h_1 next hnext => exact hround hnext h
          case h_2 =>
              cases h
              exact ⟨Nat.le_refl _, hplace⟩
        · cases h
          exact ⟨Nat.le_refl _, hplace⟩

/-- A repeated part goes forward. -/
theorem repeat_part_forward (greed : Greed) :
    Forward text (repeatPart text.size body least most greed) := by
  intro k place result hplace h
  cases greed with
  | greedy => exact repeat_greedy_forward hbody least most _ _ _ _ _ _ hplace h
  | reluctant => exact repeat_reluctant_forward hbody least most _ _ _ _ _ _ hplace h
  | possessive =>
      simp only [repeatPart] at h
      split at h
      case h_1 next hnext =>
          obtain ⟨hle, hsize⟩ := repeat_possessive_span hbody least most _ _ _ hplace hnext
          exact (Reaches.here hsize h).from_earlier hle
      case h_2 => cases h

end Repetition

/-! ## Parts -/

/-- A text that repeats a span lies within the text. -/
theorem repeats_text_le {flags : Flags} {start pos count : Nat} (hpos : pos ≤ text.size)
    (h : repeatsText flags text start pos count = true) : pos + count ≤ text.size := by
  induction count generalizing start pos with
  | zero => exact hpos
  | succ count ih =>
      unfold repeatsText at h
      split at h
      case h_1 a b ha hb =>
          have hlt : pos < text.size := (Array.getElem?_eq_some_iff.mp hb).1
          have hrest := ih hlt (Bool.and_eq_true_iff.mp h).2
          omega
      case h_2 => cases h

/-- Every part goes forward. -/
theorem Node.run_forward (node : Node) (flags : Flags) : Forward text (node.run text flags) := by
  induction node generalizing flags with
  | empty => exact fun k place result hplace h => .here hplace h
  | code | notCode | any | oneOf => exact take_char_forward _
  | anchor kind =>
      intro k place result hplace h
      simp only [Node.run] at h
      split at h
      · exact .here hplace h
      · cases h
  | seq first second ihfirst ihsecond =>
      intro k place result hplace h
      exact (ihfirst flags).reaches_then (ihsecond flags) hplace h
  | alt first second ihfirst ihsecond =>
      intro k place result hplace h
      simp only [Node.run] at h
      split at h
      case h_1 found hfound =>
          cases h
          exact ihfirst flags _ _ _ hplace hfound
      case h_2 => exact ihsecond flags _ _ _ hplace h
  | capture index body ih =>
      -- setting a mark does not move the place
      intro k place result hplace h
      simp only [Node.run] at h
      have hmarked : (place.mark (2 * (index - 1))).pos ≤ text.size := hplace
      obtain ⟨next, hle, hsize, hk⟩ := ih flags _ _ _ hmarked h
      exact ⟨next.mark (2 * (index - 1) + 1), hle, hsize, hk⟩
  | «scoped» on off body ih => exact ih _
  | atomic body ih =>
      intro k place result hplace h
      simp only [Node.run] at h
      split at h
      case h_1 next hnext =>
          obtain ⟨hle, hsize⟩ := (ih flags).span hplace hnext
          exact (Reaches.here hsize h).from_earlier hle
      case h_2 => cases h
  | look behind negated body ih =>
      -- whatever the look does, what follows is tried at its own position
      intro k place result hplace h
      cases behind with
      | none =>
          cases negated <;> simp only [Node.run] at h <;> split at h
          · exact .with_marks hplace h
          · cases h
          · cases h
          · exact .here hplace h
      | some width =>
          cases negated <;> simp only [Node.run] at h <;> split at h
          · cases h
          · split at h
            · exact .with_marks hplace h
            · cases h
          · exact .here hplace h
          · split at h
            · cases h
            · exact .here hplace h
  | backref index =>
      intro k place result hplace h
      simp only [Node.run] at h
      split at h
      case h_1 start stop hspan =>
          split at h
          case isTrue hrepeats =>
              have hsize := repeats_text_le hplace hrepeats
              exact (Reaches.here hsize h).from_earlier (Nat.le_add_right _ _)
          case isFalse => cases h
      case h_2 => cases h
  | conditional index yes no ihyes ihno =>
      intro k place result hplace h
      simp only [Node.run] at h
      split at h
      · exact ihyes flags _ _ _ hplace h
      · exact ihno flags _ _ _ hplace h
  | repeated least most greed body ih =>
      intro k place result hplace h
      simp only [Node.run] at h
      split at h
      · exact repeat_char_forward _ _ _ _ _ _ _ hplace h
      · exact repeat_part_forward (ih flags) _ _ _ _ _ _ hplace h

/-! ## Whole patterns -/

/-- A search of a text: what it finds from a place on is a span of the text from there on. -/
def SpansText (text : Array Char) (search : Nat → Option Match) : Prop :=
  ∀ pos found, search pos = some found →
    pos ≤ found.start ∧ found.start ≤ found.stop ∧ found.stop ≤ text.size

/-- A match at a place of the text starts there and ends within the text. -/
theorem Regex.match_at_span {regex : Regex} {flags : Flags} {pos : Nat} {found : Match}
    (hpos : pos ≤ text.size) (h : regex.matchAt flags text pos = some found) :
    found.start = pos ∧ pos ≤ found.stop ∧ found.stop ≤ text.size := by
  simp only [Regex.matchAt] at h
  split at h
  case h_1 last hlast =>
      cases h
      exact ⟨rfl, (Node.run_forward _ _).span hpos hlast⟩
  case h_2 => cases h

/-- Searching a number of places finds a span of the text from the first of them on. -/
theorem Regex.search_within_span {regex : Regex} {flags : Flags} {count pos : Nat} {found : Match}
    (hcount : pos + count ≤ text.size + 1)
    (h : regex.searchWithin flags text count pos = some found) :
    pos ≤ found.start ∧ found.start ≤ found.stop ∧ found.stop ≤ text.size := by
  induction count generalizing pos with
  | zero => cases h
  | succ count ih =>
      simp only [Regex.searchWithin] at h
      split at h
      case h_1 first hfirst =>
          cases h
          obtain ⟨hstart, hstop, hsize⟩ := Regex.match_at_span (by omega) hfirst
          omega
      case h_2 =>
          obtain ⟨hstart, hspan⟩ := ih (by omega) h
          exact ⟨by omega, hspan⟩

/-- Every search of a pattern finds spans of the text from where it starts on. -/
theorem Regex.search_span (regex : Regex) (flags : Flags) (text : Array Char) :
    SpansText text (regex.search flags text) := by
  intro pos found h
  by_cases hpos : pos ≤ text.size
  · exact Regex.search_within_span (by omega) h
  · have hnone : text.size + 1 - pos = 0 := by omega
    simp [Regex.search, hnone, Regex.searchWithin] at h

end ChannelLint.Pattern
