import ChannelLint.Proofs.CommentTails

/-!
# Tags and text broken into lines

A markup text is a row of pieces: start tags, self-closing tags and end tags, with text between them.
Lines may break anywhere in text and in a start tag or self-closing tag. `standing` says how many
elements are open after a number of characters and whether a tag is unfinished there.

`Line` says how the first line of a text comes from its pieces: it holds whole pieces, and behind them
the first part of one if the line breaks there. By induction on it, the tags that the machine finds on
a line are those of the pieces, and the line ends in a tag exactly if it breaks one. `Left.Line` says
the same of a line that may start within a tag.
-/

namespace ChannelLint

open Text

namespace Markup

open IndentState (startsWith infix_of_starts_with)

/-! ## Pieces -/

instance (text : List Char) : Decidable (NoAngles text) :=
  List.decidableBAll (fun c => isAngle c = false) text

/-- What stands in a tag in front of the mark that ends it. -/
structure TagText where
  /-- The first character of the name. -/
  first : Char
  /-- The other characters of the name and what follows it. -/
  rest : List Char
  first_ok : isNameStart first = true
  rest_ok : NoAngles rest

/-- The end of a tag, with what stands in the tag from some place on. -/
def tagEnd (selfClosing : Bool) (inner : List Char) : List Char :=
  (inner ++ if selfClosing then ['/'] else []) ++ ['>']

/-- The number of elements that a start tag or self-closing tag leaves open. -/
def opens (selfClosing : Bool) : Int :=
  if selfClosing then 0 else 1

/-- What stands in a tag does not end with a slash unless the tag is self-closing. -/
def Unslashed (selfClosing : Bool) (inner : List Char) : Prop :=
  selfClosing = false → inner.getLast? ≠ some '/'

instance (selfClosing : Bool) (inner : List Char) : Decidable (Unslashed selfClosing inner) :=
  inferInstanceAs (Decidable (_ → _))

/-- A piece of a markup text. -/
inductive Piece where
  /-- Text outside tags. -/
  | text (chars : List Char) (noAngles : NoAngles chars)
  /-- A start tag, or a self-closing tag. -/
  | opening (selfClosing : Bool) (tag : TagText) (unslashed : Unslashed selfClosing tag.rest)
  /-- An end tag, which stands on one line. -/
  | closing (tag : TagText) (unbroken : '\n' ∉ tag.rest)

namespace Piece

/-- The characters of a piece. -/
def chars : Piece → List Char
  | text chars _ => chars
  | opening selfClosing tag _ => '<' :: tag.first :: tagEnd selfClosing tag.rest
  | closing tag _ => '<' :: '/' :: tag.first :: tagEnd false tag.rest

/-- How many more elements are open behind a piece than in front of it. -/
def change : Piece → Int
  | text _ _ => 0
  | opening selfClosing _ _ => opens selfClosing
  | closing _ _ => -1

/-- Whether a place within the piece is in a tag that may be unfinished at the end of a line. -/
def isOpening : Piece → Bool
  | opening _ _ _ => true
  | _ => false

end Piece

/-- The text that the pieces make up. -/
def print (pieces : List Piece) : List Char :=
  pieces.flatMap Piece.chars

/-! ## Standings -/

/-- The number of open elements at a place, and whether the place is in a start tag or self-closing
tag. -/
structure Standing where
  /-- The number of open elements. -/
  opened : Int
  /-- Whether a tag is unfinished. -/
  inTag : Bool
  deriving DecidableEq, Repr

namespace Standing

/-- The depth at a place: an unfinished tag counts as a level. -/
def depth (standing : Standing) : Int :=
  standing.opened + if standing.inTag then 1 else 0

/-- The standing at a place in front of which more elements are opened. -/
def add (change : Int) (standing : Standing) : Standing :=
  { standing with opened := change + standing.opened }

/-- Nothing opened in front changes nothing. -/
@[simp] theorem add_zero (standing : Standing) : standing.add 0 = standing := by
  simp [add]

/-- Elements opened in front of a place add up. -/
@[simp] theorem add_add (first second : Int) (standing : Standing) :
    (standing.add second).add first = standing.add (first + second) := by
  simp [add, Int.add_assoc]

end Standing

/-- The standing after a number of characters of the text that the pieces make up. -/
def standing : List Piece → Nat → Standing
  | [], _ => ⟨0, false⟩
  | piece :: rest, count =>
      if piece.chars.length ≤ count then
        (standing rest (count - piece.chars.length)).add piece.change
      else ⟨0, piece.isOpening && 0 < count⟩

/-- Every end tag has an open element to close, where so many elements are open before the
pieces. -/
def Matched (opened : Int) : List Piece → Prop
  | [] => True
  | piece :: rest => 0 ≤ opened + piece.change ∧ Matched (opened + piece.change) rest

instance decidableMatched (opened : Int) : (pieces : List Piece) → Decidable (Matched opened pieces)
  | [] => isTrue trivial
  | piece :: rest =>
      have := decidableMatched (opened + piece.change) rest
      inferInstanceAs (Decidable (_ ∧ _))

/-- Behind a whole piece, the later pieces count. -/
theorem standing_behind (piece : Piece) (rest : List Piece) (count : Nat) :
    standing (piece :: rest) (piece.chars.length + count) =
      (standing rest count).add piece.change := by
  simp [standing]

/-- At the start of a text no element is open. -/
theorem standing_zero (pieces : List Piece) : standing pieces 0 = ⟨0, false⟩ := by
  induction pieces with
  | nil => rfl
  | cons piece rest ih =>
      cases piece with
      | text inline hangles =>
          cases inline <;> simp [standing, Piece.chars, Piece.change, Piece.isOpening, ih]
      | opening selfClosing tag hslash => simp [standing, Piece.chars]
      | closing tag hbroken => simp [standing, Piece.chars]

/-! ## What the machine finds in a piece -/

/-- The parts of a text without angle brackets have none. -/
theorem NoAngles.of_append {first second : List Char} (h : NoAngles (first ++ second)) :
    NoAngles first ∧ NoAngles second :=
  List.forall_mem_append.mp h

/-- The end of what stands in a tag says whether it ends with a slash. -/
theorem Unslashed.of_append {selfClosing : Bool} {before after : List Char}
    (h : Unslashed selfClosing (before ++ after)) : Unslashed selfClosing after := by
  intro hself
  cases after with
  | nil => simp
  | cons c after =>
      have hlast := h hself
      rwa [List.getLast?_append_of_ne_nil before (List.cons_ne_nil c after)] at hlast

/-- No tag starts within a tag. -/
theorem not_open_tag_end {inner : List Char} (h : NoAngles inner) (selfClosing : Bool) :
    '<' ∉ tagEnd selfClosing inner := by
  cases selfClosing <;> simp [tagEnd, h.not_mem_open]

/-- Lines break only in what stands in a tag. -/
theorem feed_mem_tag_end {selfClosing : Bool} {inner : List Char} :
    '\n' ∈ tagEnd selfClosing inner ↔ '\n' ∈ inner := by
  cases selfClosing <;> simp [tagEnd]

/-- A tag is self-closing exactly if a slash stands in front of its end. -/
theorem last_of_unslashed {selfClosing : Bool} {inner : List Char}
    (h : Unslashed selfClosing inner) :
    ((inner ++ if selfClosing then ['/'] else []).getLast? == some '/') = selfClosing := by
  cases selfClosing with
  | false => simpa using h rfl
  | true => simp

/-- A text in which no tag starts makes no difference to whether the text behind it ends in a tag. -/
theorem ends_in_tag_behind {text : List Char} (h : '<' ∉ text) (rest : List Char) :
    endsInTag (text ++ rest) = endsInTag rest := by
  induction text with
  | nil => rfl
  | cons c text ih =>
      rw [List.mem_cons, not_or] at h
      have hc : (c == '<') = false := beq_eq_false_iff_ne.mpr (Ne.symm h.1)
      simp [endsInTag, hc, ih h.2]

/-- If a text in front of which no tag starts is led by a tag, so is the text behind it. -/
theorem starts_with_behind {marks text rest : List Char} (h : '<' ∉ text)
    (hstart : startsWith ('<' :: marks) (text ++ rest) = true) :
    startsWith ('<' :: marks) rest = true := by
  induction text with
  | nil => exact hstart
  | cons c text ih =>
      rw [List.mem_cons, not_or] at h
      cases hc : isBlank c with
      | true =>
          refine ih h.2 ?_
          simpa [startsWith, trimStart, hc] using hstart
      | false =>
          rw [List.cons_append, IndentState.starts_with_cons hc,
            beq_eq_false_iff_ne.mpr h.1] at hstart
          cases hstart

/-- A text in which no tag starts, in front of code, is code. -/
theorem IsCode.behind {text : List Char} (h : '<' ∉ text) {rest : List Char}
    (hrest : IsCode rest) : IsCode (text ++ rest) := by
  constructor
  · rw [pair_infix_append h]
    exact hrest.no_exclamation
  · rw [pair_infix_append h]
    exact hrest.no_question

namespace TagText

/-- The name of a tag starts with no line feed. -/
theorem first_ne_feed (tag : TagText) : tag.first ≠ '\n' := by
  intro heq
  cases heq ▸ tag.first_ok

/-- The name of a tag starts with no angle bracket. -/
theorem first_ne_open (tag : TagText) : tag.first ≠ '<' := by
  intro heq
  cases heq ▸ tag.first_ok

/-- A start tag or self-closing tag in front is no end tag. -/
theorem not_leading (tag : TagText) (rest : List Char) :
    startsWith ['<', '/'] ('<' :: tag.first :: rest) = false := by
  rw [IndentState.starts_with_cons (by decide)]
  simp [List.isPrefixOf, (ne_slash_of_name_start tag.first_ok).symm]

end TagText

namespace Piece

/-- A piece in front of code is code. -/
theorem is_code (piece : Piece) {rest : List Char} (h : IsCode rest) :
    IsCode (piece.chars ++ rest) := by
  cases piece with
  | text chars hangles => exact h.behind hangles.not_mem_open
  | opening selfClosing tag hslash =>
      exact .tag (.inl tag.first_ok) (not_open_tag_end tag.rest_ok selfClosing) h
  | closing tag hbroken =>
      have hopen : '<' ∉ tag.first :: tagEnd false tag.rest := by
        simp [tag.first_ne_open.symm, not_open_tag_end tag.rest_ok false]
      exact .tag (.inr rfl) hopen h

/-- The tags of a piece change the number of open elements as the piece does. -/
theorem balance_append (piece : Piece) (rest : List Char) :
    balance (piece.chars ++ rest) = piece.change + balance rest := by
  cases piece with
  | text inline hangles => simp [chars, change, balance, tags_append hangles.not_mem_open]
  | opening selfClosing tag hslash =>
      have hinner : NoAngles (tag.rest ++ if selfClosing then ['/'] else []) := by
        refine tag.rest_ok.append ?_
        cases selfClosing <;> simp [NoAngles, isAngle]
      have htags := tags_start tag.first_ok hinner rest
      rw [last_of_unslashed hslash] at htags
      have htext : (opening selfClosing tag hslash).chars ++ rest =
          '<' :: tag.first ::
            ((tag.rest ++ if selfClosing then ['/'] else []) ++ '>' :: rest) := by
        simp [chars, tagEnd]
      rw [htext, balance, htags]
      cases selfClosing <;> rfl
  | closing tag hbroken =>
      have htags := tags_end tag.first_ok tag.rest_ok rest
      simp [chars, change, tagEnd, balance, htags, Tag.balance]

/-- Behind a whole piece no tag is unfinished but one that starts later. -/
theorem ends_in_tag_append (piece : Piece) (rest : List Char) :
    endsInTag (piece.chars ++ rest) = endsInTag rest := by
  cases piece with
  | text chars hangles => exact ends_in_tag_behind hangles.not_mem_open rest
  | opening selfClosing tag hslash =>
      have hends := Markup.ends_in_tag_append
        ('<' :: tag.first :: (tag.rest ++ if selfClosing then ['/'] else [])) rest
      simpa [chars, tagEnd] using hends
  | closing tag hbroken =>
      have hends := Markup.ends_in_tag_append ('<' :: '/' :: tag.first :: tag.rest) rest
      simpa [chars, tagEnd] using hends

end Piece

/-! ## What is left of a text -/

/-- What is left of a text behind a place. -/
inductive Left where
  /-- The pieces behind a place outside tags. -/
  | outside (pieces : List Piece)
  /-- The rest of what stands in a start tag or self-closing tag, and the pieces behind the tag. -/
  | inside (selfClosing : Bool) (inner : List Char) (pieces : List Piece)
      (noAngles : NoAngles inner) (unslashed : Unslashed selfClosing inner)

namespace Left

/-- The characters that are left. -/
def chars : Left → List Char
  | outside pieces => print pieces
  | inside selfClosing inner pieces _ _ => tagEnd selfClosing inner ++ print pieces

/-- Whether the place is in a tag. -/
def isInside : Left → Bool
  | outside _ => false
  | inside _ _ _ _ _ => true

/-- The standing after a number of characters of what is left. -/
def standing : Left → Nat → Standing
  | outside pieces, count => Markup.standing pieces count
  | inside selfClosing inner pieces _ _, count =>
      if (tagEnd selfClosing inner).length ≤ count then
        (Markup.standing pieces (count - (tagEnd selfClosing inner).length)).add
          (opens selfClosing)
      else ⟨0, true⟩

/-- Every end tag that is left has an open element to close. -/
def Matched (opened : Int) : Left → Prop
  | outside pieces => Markup.Matched opened pieces
  | inside selfClosing _ pieces _ _ => Markup.Matched (opened + opens selfClosing) pieces

/-- At its start, what is left has opened nothing more than was open before. -/
theorem standing_start (left : Left) (opened : Int) :
    (left.standing 0).add opened = ⟨opened, left.isInside⟩ := by
  have hzero : left.standing 0 = ⟨0, left.isInside⟩ := by
    cases left with
    | outside pieces => exact Markup.standing_zero pieces
    | inside selfClosing inner pieces hangles hslash => simp [standing, isInside, tagEnd]
  rw [hzero, Standing.add, Int.add_zero]

end Left

/-- Whether a line behind which so much is left ends in a tag. -/
def endsInside (left : Option Left) : Bool :=
  left.any Left.isInside

/-- The characters from the end of a line on, its line feed included. -/
def tailChars : Option Left → List Char
  | none => []
  | some left => '\n' :: left.chars

/-- What stands in a tag behind a line feed stands in the rest of the tag. -/
theorem behind_feed_ok {selfClosing : Bool} {before after : List Char}
    (hangles : NoAngles (before ++ '\n' :: after))
    (hslash : Unslashed selfClosing (before ++ '\n' :: after)) :
    NoAngles after ∧ Unslashed selfClosing after := by
  rw [List.append_cons] at hangles hslash
  exact ⟨hangles.of_append.2, hslash.of_append⟩

/-! ## Lines that start outside tags -/

/-- The first line of the text that the pieces make up, without its end: its characters, how many more
elements are open behind it, and what is left behind its line feed; `none` if the text ends. -/
inductive Line : List Piece → List Char → Int → Option Left → Prop where
  /-- The text ends. -/
  | done : Line [] [] 0 none
  /-- The line breaks in a text. -/
  | brokenText {before after : List Char} {rest : List Piece}
      {noAngles : NoAngles (before ++ '\n' :: after)} (afterOk : NoAngles after) :
      '\n' ∉ before →
      Line (.text (before ++ '\n' :: after) noAngles :: rest) before 0
        (some (.outside (.text after afterOk :: rest)))
  /-- The line breaks in a tag. -/
  | brokenTag {selfClosing : Bool} {tag : TagText} {before after : List Char} {rest : List Piece}
      {unslashed : Unslashed selfClosing tag.rest} (afterOk : NoAngles after)
      (afterLast : Unslashed selfClosing after) :
      tag.rest = before ++ '\n' :: after → '\n' ∉ before →
      Line (.opening selfClosing tag unslashed :: rest) ('<' :: tag.first :: before) 0
        (some (.inside selfClosing after rest afterOk afterLast))
  /-- A piece stands on the line as a whole. -/
  | whole {piece : Piece} {rest : List Piece} {body : List Char} {change : Int}
      {left : Option Left} :
      '\n' ∉ piece.chars → Line rest body change left →
      Line (piece :: rest) (piece.chars ++ body) (piece.change + change) left

/-- Every text has a first line. -/
theorem exists_line (pieces : List Piece) : ∃ body change left, Line pieces body change left := by
  induction pieces with
  | nil => exact ⟨_, _, _, .done⟩
  | cons piece rest ih =>
      obtain ⟨body, change, left, hline⟩ := ih
      by_cases hfeed : '\n' ∈ piece.chars
      · cases piece with
        | text inline hangles =>
            obtain ⟨before, after, rfl, hbefore⟩ := List.eq_append_cons_of_mem hfeed
            have hafter : NoAngles after := fun c hc =>
              hangles.of_append.2 c (List.mem_cons_of_mem _ hc)
            exact ⟨_, _, _, .brokenText hafter hbefore⟩
        | opening selfClosing tag hslash =>
            have hmem : '\n' ∈ tag.rest := by
              simpa [Piece.chars, tag.first_ne_feed.symm, feed_mem_tag_end] using hfeed
            obtain ⟨before, after, hrest, hbefore⟩ := List.eq_append_cons_of_mem hmem
            obtain ⟨hafter, hlast⟩ := behind_feed_ok (hrest ▸ tag.rest_ok) (hrest ▸ hslash)
            exact ⟨_, _, _, .brokenTag hafter hlast hrest hbefore⟩
        | closing tag hbroken =>
            have hmem : '\n' ∈ tag.rest := by
              simpa [Piece.chars, tag.first_ne_feed.symm, feed_mem_tag_end] using hfeed
            exact absurd hmem hbroken
      · exact ⟨_, _, _, .whole hfeed hline⟩

namespace Line

variable {pieces : List Piece} {body : List Char} {change : Int} {left : Option Left}
  (h : Line pieces body change left)
include h

/-- The line has no line feed in it. -/
theorem unbroken : '\n' ∉ body := by
  induction h with
  | done => simp
  | brokenText hafter hbefore => exact hbefore
  | @brokenTag _ tag _ _ _ _ hafter hlast hrest hbefore =>
      simp [tag.first_ne_feed.symm, hbefore]
  | whole hpiece hline ih => simp [hpiece, ih]

/-- The text is the line and what is left behind it. -/
theorem print_eq : print pieces = body ++ tailChars left := by
  induction h with
  | done => rfl
  | brokenText hafter hbefore => simp [print, Piece.chars, tailChars, Left.chars]
  | brokenTag hafter hlast hrest hbefore =>
      simp [print, Piece.chars, tailChars, Left.chars, hrest, tagEnd]
  | @whole piece rest _ _ _ hpiece hline ih =>
      rw [List.append_assoc, ← ih]
      rfl

/-- The line is code. -/
theorem is_code : IsCode body := by
  induction h with
  | done => exact .of_no_open (by simp)
  | @brokenText before _ _ hangles hafter hbefore =>
      exact .of_no_open hangles.of_append.1.not_mem_open
  | @brokenTag _ tag before _ _ _ hafter hlast hrest hbefore =>
      have hangles : NoAngles before := (hrest ▸ tag.rest_ok).of_append.1
      have htag := IsCode.tag (.inl tag.first_ok) hangles.not_mem_open (.of_no_open List.not_mem_nil)
      rwa [List.append_nil] at htag
  | @whole piece _ _ _ _ hpiece hline ih => exact piece.is_code ih

/-- The tags on the line change the number of open elements as the pieces do. -/
theorem balance_eq : balance body = change := by
  induction h with
  | done => rfl
  | @brokenText before _ _ hangles hafter hbefore =>
      rw [balance, tags_of_no_open hangles.of_append.1.not_mem_open]
      rfl
  | @brokenTag _ tag before _ _ _ hafter hlast hrest hbefore =>
      rw [balance, tags_unfinished tag.first_ok (hrest ▸ tag.rest_ok).of_append.1]
      rfl
  | @whole piece _ _ _ _ hpiece hline ih => rw [piece.balance_append, ih]

/-- The line ends in a tag exactly if it breaks one. -/
theorem ends_in_tag_eq : endsInTag body = endsInside left := by
  induction h with
  | done => rfl
  | @brokenText before _ _ hangles hafter hbefore =>
      rw [ends_in_tag_of_no_open hangles.of_append.1.not_mem_open]
      rfl
  | @brokenTag _ tag before _ _ _ hafter hlast hrest hbefore =>
      rw [ends_in_tag_start tag.first_ok (hrest ▸ tag.rest_ok).of_append.1]
      rfl
  | @whole piece _ _ _ _ hpiece hline ih => rw [piece.ends_in_tag_append, ih]

/-- If the text goes on behind the line, its standings are those of what is left, with the elements
that the line opens. -/
theorem standing_behind {later : Left} (hleft : left = some later) (count : Nat) :
    standing pieces (body.length + 1 + count) = (later.standing count).add change := by
  induction h with
  | done => cases hleft
  | @brokenText before after rest hangles hafter hbefore =>
      cases hleft
      have hlength : (before ++ '\n' :: after).length = before.length + 1 + after.length := by
        simp only [List.length_append, List.length_cons]
        omega
      simp only [Left.standing, standing, Piece.chars, Piece.change, Piece.isOpening, hlength,
        Standing.add_zero, Nat.add_sub_add_left, Nat.add_le_add_iff_left]
      rfl
  | @brokenTag selfClosing tag before after rest hslash hafter hlast hrest hbefore =>
      cases hleft
      have hlength : (Piece.opening selfClosing tag hslash).chars.length =
          ('<' :: tag.first :: before).length + 1 + (tagEnd selfClosing after).length := by
        simp only [Piece.chars, hrest, tagEnd, List.length_append, List.length_cons]
        omega
      simp only [Left.standing, standing, hlength, Standing.add_zero, Nat.add_sub_add_left,
        Nat.add_le_add_iff_left]
      split
      case isTrue => rfl
      case isFalse =>
          simp only [Piece.isOpening, Bool.true_and, Standing.mk.injEq, decide_eq_true_eq, true_and]
          omega
  | @whole piece _ _ _ _ hpiece hline ih =>
      rw [List.length_append, Nat.add_assoc, Nat.add_assoc, Markup.standing_behind,
        ← Nat.add_assoc, ih hleft, Standing.add_add]

/-- If the text ends with the line, so many elements are open from there on as the line opens, and no
tag is unfinished. -/
theorem standing_end (hleft : left = none) (count : Nat) :
    standing pieces (body.length + count) = ⟨change, false⟩ := by
  induction h with
  | done => rfl
  | brokenText | brokenTag => cases hleft
  | @whole piece _ _ _ _ hpiece hline ih =>
      rw [List.length_append, Nat.add_assoc, Markup.standing_behind, ih hleft, Standing.add]

/-- No more elements are closed on the line than are open, and there is an open one for every end tag
behind it. -/
theorem matched {opened : Int} (hopened : 0 ≤ opened) (hmatched : Matched opened pieces) :
    0 ≤ opened + change ∧ ∀ later, left = some later → later.Matched (opened + change) := by
  induction h generalizing opened with
  | done => exact ⟨by simpa using hopened, by simp⟩
  | brokenText hafter hbefore =>
      refine ⟨by simpa using hopened, fun later hlater => ?_⟩
      cases hlater
      simpa [Left.Matched, Matched, Piece.change] using hmatched
  | brokenTag hafter hlast hrest hbefore =>
      refine ⟨by simpa using hopened, fun later hlater => ?_⟩
      cases hlater
      simpa [Left.Matched, Piece.change] using hmatched.2
  | @whole piece _ _ change _ hpiece hline ih =>
      rw [← Int.add_assoc]
      exact ih hmatched.1 hmatched.2

/-- An end tag in front of the line closes an element that is open before the line. -/
theorem leading {opened : Int} (hmatched : Matched opened pieces)
    (hlead : startsWith ['<', '/'] body = true) :
    1 ≤ opened ∧ (tags body).head?.map Tag.closing = some true := by
  induction h generalizing opened with
  | done => cases hlead
  | @brokenText before _ _ hangles hafter hbefore =>
      have hopen := hangles.of_append.1.not_mem_open
      exact absurd ((infix_of_starts_with hlead).subset List.mem_cons_self) hopen
  | @brokenTag _ tag before _ _ _ hafter hlast hrest hbefore =>
      cases (tag.not_leading before).symm.trans hlead
  | @whole piece _ body change _ hpiece hline ih =>
      cases piece with
      | text inline hangles =>
          obtain ⟨hopened, htags⟩ := ih (by simpa [Piece.change] using hmatched.2)
            (starts_with_behind hangles.not_mem_open hlead)
          refine ⟨by simpa [Piece.change] using hopened, ?_⟩
          rwa [Piece.chars, tags_append hangles.not_mem_open]
      | opening selfClosing tag hslash => cases (tag.not_leading _).symm.trans hlead
      | closing tag hbroken =>
          have hopened : 0 ≤ opened + -1 := hmatched.1
          have htags := tags_end tag.first_ok tag.rest_ok body
          refine ⟨by omega, ?_⟩
          simp [Piece.chars, tagEnd, htags]

end Line

/-! ## Lines that may start in a tag -/

namespace Left

/-- The first line of what is left of a text, as `Markup.Line`. -/
inductive Line : Left → List Char → Int → Option Left → Prop where
  /-- The line starts outside tags. -/
  | outside {pieces : List Piece} {body : List Char} {change : Int} {later : Option Left} :
      Markup.Line pieces body change later → Line (.outside pieces) body change later
  /-- The line is within a tag. -/
  | within {selfClosing : Bool} {body after : List Char} {pieces : List Piece}
      {noAngles : NoAngles (body ++ '\n' :: after)}
      {unslashed : Unslashed selfClosing (body ++ '\n' :: after)}
      (afterOk : NoAngles after) (afterLast : Unslashed selfClosing after) :
      '\n' ∉ body →
      Line (.inside selfClosing (body ++ '\n' :: after) pieces noAngles unslashed) body 0
        (some (.inside selfClosing after pieces afterOk afterLast))
  /-- The tag ends on the line. -/
  | ends {selfClosing : Bool} {inner : List Char} {pieces : List Piece} {noAngles : NoAngles inner}
      {unslashed : Unslashed selfClosing inner} {body : List Char} {change : Int}
      {later : Option Left} :
      '\n' ∉ inner → Markup.Line pieces body change later →
      Line (.inside selfClosing inner pieces noAngles unslashed) (tagEnd selfClosing inner ++ body)
        (opens selfClosing + change) later

/-- What is left of a text has a first line. -/
theorem exists_line (left : Left) : ∃ body change later, left.Line body change later := by
  cases left with
  | outside pieces =>
      obtain ⟨body, change, later, hline⟩ := Markup.exists_line pieces
      exact ⟨_, _, _, .outside hline⟩
  | inside selfClosing inner pieces hangles hslash =>
      by_cases hfeed : '\n' ∈ inner
      · obtain ⟨before, after, rfl, hbefore⟩ := List.eq_append_cons_of_mem hfeed
        obtain ⟨hafter, hlast⟩ := behind_feed_ok hangles hslash
        exact ⟨_, _, _, .within hafter hlast hbefore⟩
      · obtain ⟨body, change, later, hline⟩ := Markup.exists_line pieces
        exact ⟨_, _, _, .ends hfeed hline⟩

namespace Line

variable {left : Left} {body : List Char} {change : Int} {later : Option Left}
  (h : left.Line body change later)
include h

/-- The line has no line feed in it. -/
theorem unbroken : '\n' ∉ body := by
  cases h with
  | outside hline => exact hline.unbroken
  | within hafter hlast hbody => exact hbody
  | ends hinner hline => simp [feed_mem_tag_end, hinner, hline.unbroken]

/-- What is left is the line and what is left behind it. -/
theorem chars_eq : left.chars = body ++ tailChars later := by
  cases h with
  | outside hline => exact hline.print_eq
  | within hafter hlast hbody => simp [chars, tailChars, tagEnd]
  | ends hinner hline => rw [chars, hline.print_eq, List.append_assoc]

/-- The line is code. -/
theorem is_code : IsCode body := by
  cases h with
  | outside hline => exact hline.is_code
  | @within _ _ _ _ hangles _ hafter hlast hbody =>
      exact .of_no_open hangles.of_append.1.not_mem_open
  | @ends selfClosing _ _ hangles _ _ _ _ hinner hline =>
      exact hline.is_code.behind (not_open_tag_end hangles selfClosing)

/-- If the text goes on behind the line, its standings are those of what is left, with the elements
that the line opens. -/
theorem standing_behind {next : Left} (hlater : later = some next) (count : Nat) :
    left.standing (body.length + 1 + count) = (next.standing count).add change := by
  cases h with
  | outside hline => exact hline.standing_behind hlater count
  | @within selfClosing _ after _ _ _ hafter hlast hbody =>
      cases hlater
      have hlength : (tagEnd selfClosing (body ++ '\n' :: after)).length =
          body.length + 1 + (tagEnd selfClosing after).length := by
        simp only [tagEnd, List.length_append, List.length_cons]
        omega
      simp only [standing, hlength, Standing.add_zero, Nat.add_sub_add_left,
        Nat.add_le_add_iff_left]
  | @ends selfClosing inner _ _ _ body _ _ hinner hline =>
      have hlength : (tagEnd selfClosing inner ++ body).length + 1 + count =
          (tagEnd selfClosing inner).length + (body.length + 1 + count) := by
        rw [List.length_append]
        omega
      rw [hlength, standing, if_pos (by omega), Nat.add_sub_cancel_left,
        hline.standing_behind hlater, Standing.add_add]

/-- If the text ends with the line, so many elements are open from there on as the line opens, and no
tag is unfinished. -/
theorem standing_end (hlater : later = none) (count : Nat) :
    left.standing (body.length + count) = ⟨change, false⟩ := by
  cases h with
  | outside hline => exact hline.standing_end hlater count
  | within => cases hlater
  | ends hinner hline =>
      rw [List.length_append, Nat.add_assoc, standing, if_pos (by omega), Nat.add_sub_cancel_left,
        hline.standing_end hlater, Standing.add]

/-- No more elements are closed on the line than are open, and there is an open one for every end tag
behind it. -/
theorem matched {opened : Int} (hopened : 0 ≤ opened) (hmatched : left.Matched opened) :
    0 ≤ opened + change ∧ ∀ next, later = some next → next.Matched (opened + change) := by
  cases h with
  | outside hline => exact hline.matched hopened hmatched
  | within hafter hlast hbody =>
      refine ⟨by simpa using hopened, fun next hnext => ?_⟩
      cases hnext
      simpa [Left.Matched] using hmatched
  | @ends selfClosing _ _ _ _ _ _ _ hinner hline =>
      have hopened' : 0 ≤ opened + opens selfClosing := by
        cases selfClosing <;> simp only [opens] <;> omega
      rw [← Int.add_assoc]
      exact hline.matched hopened' hmatched

end Line

end Left

end Markup

end ChannelLint
