import ChannelLint.Text.Lines
import Mathlib.Data.List.Forall2

/-!
# The shape of lines

`Rows` says that texts stand in a row as the lines of a file do: a line feed ends each of them and
stands nowhere else, and only the last may go without one. Cutting gives rows that are not empty,
and rows that are not empty are what cutting their concatenation gives back. The main theorem,
`Rows.offset_line_feeds`, says that in a row of texts the number of line feeds before a place is the
index of the text that holds the place.
-/

namespace ChannelLint.Text

/-- What can end a line: a line feed, or nothing. -/
def IsTerminator (terminator : List Char) : Prop :=
  terminator = [] ∨ terminator = ['\n']

/-- Texts in a row: each is ended by its only line feed, except a last one that has none. -/
inductive Rows : List (List Char) → Prop where
  | nil : Rows []
  | last {body : List Char} : '\n' ∉ body → Rows [body]
  | cons {body : List Char} {rest : List (List Char)} :
      '\n' ∉ body → Rows rest → Rows ((body ++ ['\n']) :: rest)

/-- The second line ends as the first does: a change of a body that brings in no line feed. -/
def EndsAlike (line changed : List Char) : Prop :=
  ∀ body terminator, '\n' ∉ body → IsTerminator terminator → line = body ++ terminator →
    ∃ kept, '\n' ∉ kept ∧ changed = kept ++ terminator

/-- Every line ends as it does. -/
theorem EndsAlike.refl (line : List Char) : EndsAlike line line :=
  fun body _ hbody _ heq => ⟨body, hbody, heq⟩

/-! ## Cutting into lines -/

/-- Cutting loses nothing. -/
theorem split_lines_flatten (text : List Char) : (splitLines text).flatten = text := by
  fun_induction splitLines text with
  | case1 => rfl
  | case2 c rest hfeed ih => simp [ih]
  | case3 c rest hfeed hlines ih => simpa [hlines] using ih
  | case4 c rest hfeed line lines hlines ih => simpa [hlines] using ih

/-- Cutting gives no empty line. -/
theorem split_lines_ne_nil {text line : List Char} (h : line ∈ splitLines text) : line ≠ [] := by
  fun_induction splitLines text with
  | case1 => simp at h
  | case2 c rest hfeed ih =>
      rcases List.mem_cons.mp h with rfl | h
      · simp
      · exact ih h
  | case3 c rest hfeed hlines ih => simp_all
  | case4 c rest hfeed first lines hlines ih =>
      rcases List.mem_cons.mp h with rfl | h
      · simp
      · exact ih (hlines ▸ List.mem_cons_of_mem _ h)

/-- The lines of a text stand in a row. -/
theorem split_lines_rows (text : List Char) : Rows (splitLines text) := by
  fun_induction splitLines text with
  | case1 => exact .nil
  | case2 c rest hfeed ih =>
      obtain rfl : c = '\n' := by simpa using hfeed
      exact .cons List.not_mem_nil ih
  | case3 c rest hfeed hlines ih =>
      have hc : c ≠ '\n' := by simpa using hfeed
      exact .last (by simp [hc.symm])
  | case4 c rest hfeed line lines hlines ih =>
      -- the character joins the first line of the rest, whose end says which rule applies
      have hc : c ≠ '\n' := by simpa using hfeed
      rw [hlines] at ih
      cases ih with
      | last hbody => exact .last (by simp [hc.symm, hbody])
      | @cons body _ hbody hrest =>
          have hlonger : '\n' ∉ c :: body := by simp [hc.symm, hbody]
          exact .cons hlonger hrest

/-- A body without line feeds in front of a line feed is the first line. -/
theorem split_lines_cons {body : List Char} (rest : List Char) (h : '\n' ∉ body) :
    splitLines (body ++ '\n' :: rest) = (body ++ ['\n']) :: splitLines rest := by
  induction body with
  | nil => simp [splitLines]
  | cons c body ih =>
      simp only [List.mem_cons, not_or] at h
      have hc : (c == '\n') = false := beq_eq_false_iff_ne.mpr (Ne.symm h.1)
      simp [splitLines, hc, ih h.2]

/-- A text without line feeds that is not empty is a single line. -/
theorem split_lines_last {body : List Char} (h : '\n' ∉ body) (hne : body ≠ []) :
    splitLines body = [body] := by
  induction body with
  | nil => exact absurd rfl hne
  | cons c body ih =>
      simp only [List.mem_cons, not_or] at h
      have hc : (c == '\n') = false := beq_eq_false_iff_ne.mpr (Ne.symm h.1)
      cases body with
      | nil => simp [splitLines, hc]
      | cons d body =>
          rw [splitLines, if_neg (by simp [hc]), ih h.2 (by simp)]

namespace Rows

/-- Rows that are not empty are the lines of their concatenation. -/
theorem split_lines_eq {lines : List (List Char)} (h : Rows lines) (hne : ∀ line ∈ lines, line ≠ []) :
    splitLines lines.flatten = lines := by
  induction h with
  | nil => rfl
  | last hbody =>
      rw [List.flatten_singleton]
      exact split_lines_last hbody (hne _ (by simp))
  | @cons body rest hbody hrest ih =>
      rw [List.flatten_cons, List.append_assoc, List.singleton_append, split_lines_cons _ hbody,
        ih fun line hline => hne line (List.mem_cons_of_mem _ hline)]

/-- Every text of a row is a body without line feeds and a terminator. -/
theorem body_of_mem {lines : List (List Char)} {line : List Char} (h : Rows lines)
    (hline : line ∈ lines) :
    ∃ body terminator, '\n' ∉ body ∧ IsTerminator terminator ∧ line = body ++ terminator := by
  induction h with
  | nil => simp at hline
  | @last body hbody =>
      exact ⟨body, [], hbody, .inl rfl, by simpa using hline⟩
  | @cons body rest hbody hrest ih =>
      rcases List.mem_cons.mp hline with rfl | hline
      · exact ⟨body, ['\n'], hbody, .inr rfl, rfl⟩
      · exact ih hline

/-- Texts that end as the texts of a row do stand in a row. -/
theorem of_ends_alike {lines changed : List (List Char)} (h : Rows lines)
    (halike : List.Forall₂ EndsAlike lines changed) : Rows changed := by
  induction h generalizing changed with
  | nil => cases halike; exact .nil
  | @last body hbody =>
      cases halike with
      | cons hfirst hrest =>
          cases hrest
          obtain ⟨kept, hkept, rfl⟩ := hfirst body [] hbody (.inl rfl) (by simp)
          exact .last (by simpa using hkept)
  | @cons body rest hbody hrest ih =>
      cases halike with
      | cons hfirst hothers =>
          obtain ⟨kept, hkept, rfl⟩ := hfirst body ['\n'] hbody (.inr rfl) rfl
          exact .cons hkept (ih hothers)

end Rows

/-- The second text can take the place of the line: it ends as the line does, and it is empty only
if the line is. -/
structure StandsIn (line changed : List Char) : Prop where
  alike : EndsAlike line changed
  ne_nil : line ≠ [] → changed ≠ []

/-- A line can take its own place. -/
theorem StandsIn.refl (line : List Char) : StandsIn line line :=
  ⟨.refl line, id⟩

/-- Texts that take the place of lines that are not empty are not empty. -/
theorem ne_nil_of_stands_in {lines changed : List (List Char)}
    (h : List.Forall₂ StandsIn lines changed) (hlines : ∀ line ∈ lines, line ≠ []) :
    ∀ line ∈ changed, line ≠ [] := by
  induction h with
  | nil => simp
  | cons hline hrest ih =>
      rw [List.forall_mem_cons] at hlines ⊢
      exact ⟨hline.ne_nil hlines.1, ih hlines.2⟩

/-- Texts that take the place of the lines of a text are the lines of the text they make up. -/
theorem split_lines_of_stands_in {text : List Char} {changed : List (List Char)}
    (h : List.Forall₂ StandsIn (splitLines text) changed) : splitLines changed.flatten = changed := by
  have hrows : Rows changed :=
    (split_lines_rows text).of_ends_alike (h.imp fun _ _ hline => hline.alike)
  exact hrows.split_lines_eq (ne_nil_of_stands_in h fun _ => split_lines_ne_nil)

/-! ## Bodies and terminators -/

/-- A line made of a body and a terminator is taken apart into these. -/
theorem split_terminator_append {body terminator : List Char} (hbody : '\n' ∉ body)
    (hterminator : IsTerminator terminator) :
    splitTerminator (body ++ terminator) = (body, terminator) := by
  rcases hterminator with rfl | rfl
  · have hlast : body.getLast? ≠ some '\n' := fun h => hbody (List.mem_of_getLast? h)
    simp [splitTerminator, hlast]
  · simp [splitTerminator]

/-! ## Places and lines -/

/-- The number of characters in front of the text at an index of a row. -/
def offset (pieces : List (List Char)) (index : Nat) : Nat :=
  (pieces.take index).flatten.length

/-- Nothing stands in front of the first text. -/
@[simp] theorem offset_zero (pieces : List (List Char)) : offset pieces 0 = 0 := by
  simp [offset]

/-- The first text stands in front of all others. -/
@[simp] theorem offset_cons_succ (piece : List Char) (pieces : List (List Char)) (index : Nat) :
    offset (piece :: pieces) (index + 1) = piece.length + offset pieces index := by
  simp [offset]

/-- A later text has more in front of it. -/
theorem offset_mono (pieces : List (List Char)) {first second : Nat} (h : first ≤ second) :
    offset pieces first ≤ offset pieces second := by
  induction pieces generalizing first second with
  | nil => simp [offset]
  | cons piece pieces ih =>
      cases first with
      | zero => simp
      | succ first =>
          obtain ⟨second, rfl⟩ : ∃ n, second = n + 1 := ⟨second - 1, by omega⟩
          simpa using ih (by omega : first ≤ second)

/-- A place lies in one text of a row only. -/
theorem offset_unique {pieces : List (List Char)} {place first second : Nat}
    (hfirst : offset pieces first ≤ place ∧ place < offset pieces (first + 1))
    (hsecond : offset pieces second ≤ place ∧ place < offset pieces (second + 1)) :
    first = second := by
  rcases Nat.lt_trichotomy first second with hlt | heq | hgt
  · have hle := offset_mono pieces (show first + 1 ≤ second from hlt)
    omega
  · exact heq
  · have hle := offset_mono pieces (show second + 1 ≤ first from hgt)
    omega

/-- The line feeds of a text before a body without line feeds ends: there are none. -/
theorem line_feeds_take_append {body : List Char} (rest : List Char) {place : Nat} (h : '\n' ∉ body)
    (hplace : place ≤ body.length) : lineFeeds ((body ++ rest).take place) = 0 := by
  rw [List.take_append_of_le_length hplace]
  exact List.count_eq_zero.mpr fun hmem => h (List.mem_of_mem_take hmem)

/-- In a row of texts, the number of line feeds before a place is the index of the text that holds
the place. -/
theorem Rows.offset_line_feeds {pieces : List (List Char)} (h : Rows pieces) {place : Nat}
    (hplace : place < pieces.flatten.length) :
    lineFeeds (pieces.flatten.take place) < pieces.length ∧
      offset pieces (lineFeeds (pieces.flatten.take place)) ≤ place ∧
      place < offset pieces (lineFeeds (pieces.flatten.take place) + 1) := by
  induction h generalizing place with
  | nil => simp at hplace
  | @last body hbody =>
      simp only [List.flatten_singleton] at hplace ⊢
      have hnone := line_feeds_take_append [] hbody (Nat.le_of_lt hplace)
      rw [List.append_nil] at hnone
      simp [hnone, hplace]
  | @cons body rest hbody hrest ih =>
      rw [List.flatten_cons] at hplace ⊢
      by_cases hhere : place < (body ++ ['\n']).length
      · have hnone : lineFeeds ((body ++ ['\n'] ++ rest.flatten).take place) = 0 := by
          rw [List.append_assoc]
          exact line_feeds_take_append _ hbody (by simp at hhere; omega)
        rw [hnone]
        simpa using hhere
      · -- the place lies behind the first text, whose only line feed counts once
        obtain ⟨later, rfl⟩ : ∃ n, place = (body ++ ['\n']).length + n :=
          ⟨place - (body ++ ['\n']).length, by omega⟩
        have hlater : later < rest.flatten.length := by
          simp only [List.length_append] at hplace
          omega
        have hcount : lineFeeds ((body ++ ['\n'] ++ rest.flatten).take
            ((body ++ ['\n']).length + later)) = lineFeeds (rest.flatten.take later) + 1 := by
          have hzero : body.count '\n' = 0 := List.count_eq_zero.mpr hbody
          rw [List.take_length_add_append]
          simp only [lineFeeds, List.count_append, hzero]
          simp [Nat.add_comm]
        obtain ⟨hlt, hle, hgt⟩ := ih hlater
        rw [hcount]
        simp only [List.length_cons, offset_cons_succ]
        omega

end ChannelLint.Text
