import ChannelLint.Pattern.Class
import ChannelLint.Pattern.Parser

/-!
# Matching

`Regex.matchAt` matches a pattern at a place of a text by backtracking, and `Regex.search` finds the
first place from a given one on where it matches. The text before the place stays visible to
anchors and looks behind.

A part is matched with a continuation for what follows it: the part tries its ways of matching in
order and takes the first with which the continuation succeeds. A repetition ends a row of empty
rounds: once it has made its least number of rounds it starts another only where the last one did
not start.
-/

namespace ChannelLint.Pattern

/-- A place in the text, with the places where groups were entered and left. -/
structure Place where
  /-- The number of characters before the place. -/
  pos : Nat
  /-- Where each group was last entered, and where it was last left, by turns. -/
  marks : Array (Option Nat)
  deriving DecidableEq, Repr

namespace Place

/-- The place after `count` more characters. -/
def advance (place : Place) (count : Nat) : Place :=
  { place with pos := place.pos + count }

/-- The place with a mark set to here. -/
def mark (place : Place) (index : Nat) : Place :=
  { place with marks := place.marks.setIfInBounds index (some place.pos) }

/-- The span of a group that has been entered and left. -/
def span? (place : Place) (group : Nat) : Option (Nat × Nat) :=
  match place.marks[2 * (group - 1)]?.join, place.marks[2 * (group - 1) + 1]?.join with
  | some start, some stop => if start ≤ stop then some (start, stop) else none
  | _, _ => none

end Place

/-- What follows a part: it either fails or gives the place where the whole match ends. -/
abbrev Continuation := Place → Option Place

/-! ## Single characters and anchors -/

/-- Takes one character that satisfies the test. -/
def takeChar (text : Array Char) (test : Char → Bool) (k : Continuation) (place : Place) :
    Option Place :=
  match text[place.pos]? with
  | some c => if test c then k (place.advance 1) else none
  | none => none

/-- Whether the character before the place satisfies the test. -/
def charBefore (text : Array Char) (test : Char → Bool) (pos : Nat) : Bool :=
  match pos with
  | 0 => false
  | before + 1 => (text[before]?.map test).getD false

/-- Whether the character after the place satisfies the test. -/
def charAfter (text : Array Char) (test : Char → Bool) (pos : Nat) : Bool :=
  (text[pos]?.map test).getD false

/-- Whether the condition holds at the place. An empty text has no word boundaries and no places
between words. -/
def Anchor.holds (flags : Flags) (text : Array Char) (pos : Nat) : Anchor → Bool
  | .start => pos == 0 || (flags.multiLine && charBefore text (· == '\n') pos)
  | .finish =>
      pos == text.size
        || (charAfter text (· == '\n') pos && (flags.multiLine || pos + 1 == text.size))
  | .textStart => pos == 0
  | .textEnd => pos == text.size
  | .boundary =>
      text.size != 0 && charBefore text flags.isWord pos != charAfter text flags.isWord pos
  | .notBoundary =>
      text.size != 0 && charBefore text flags.isWord pos == charAfter text flags.isWord pos

/-! ## Repetition of a single character -/

/-- The number of characters from the place on that satisfy the test, at most `limit`. -/
def countChars (text : Array Char) (test : Char → Bool) : Nat → Nat → Nat
  | 0, _ => 0
  | limit + 1, pos =>
      match text[pos]? with
      | some c => if test c then countChars text test limit (pos + 1) + 1 else 0
      | none => 0

/-- Tries `least + extra`, …, `least` characters in this order. -/
def tryDown (k : Continuation) (place : Place) (least : Nat) : Nat → Option Place
  | 0 => k (place.advance least)
  | extra + 1 =>
      match k (place.advance (least + (extra + 1))) with
      | some result => some result
      | none => tryDown k place least extra

/-- Tries to end here, and else takes one more character that satisfies the test, `more` times at
most. -/
def tryUp (text : Array Char) (test : Char → Bool) (k : Continuation) : Nat → Place → Option Place
  | 0, place => k place
  | more + 1, place =>
      match k place with
      | some result => some result
      | none => takeChar text test (tryUp text test k more) place

/-- Repeats a single character. -/
def repeatChar (text : Array Char) (test : Char → Bool) (least : Nat) (most : Option Nat)
    (greed : Greed) (k : Continuation) (place : Place) : Option Place :=
  let available := text.size - place.pos
  let limit := min (most.getD available) available
  match greed with
  | .reluctant =>
      let taken := countChars text test least place.pos
      if taken < least then none
      else tryUp text test k (limit - least) (place.advance least)
  | .greedy =>
      let taken := countChars text test limit place.pos
      if taken < least then none else tryDown k place least (taken - least)
  | .possessive =>
      let taken := countChars text test limit place.pos
      if taken < least then none else k (place.advance taken)

/-! ## Repetition of a part -/

/-- Whether another round may start after `count` of them. -/
def mayRepeat (most : Option Nat) (count : Nat) : Bool :=
  match most with
  | some bound => count < bound
  | none => true

/-- Repeats a part, as often as possible first. `count` rounds are done, and `last` is where the
last one started that was not needed for the least number; `fuel` bounds the rounds. -/
def repeatGreedy (body : Continuation → Continuation) (least : Nat) (most : Option Nat)
    (k : Continuation) : Nat → Nat → Option Nat → Continuation
  | 0, _, _, _ => none
  | fuel + 1, count, last, place =>
      if count < least then body (repeatGreedy body least most k fuel (count + 1) last) place
      else if mayRepeat most count && last != some place.pos then
        match body (repeatGreedy body least most k fuel (count + 1) (some place.pos)) place with
        | some result => some result
        | none => k place
      else k place

/-- Repeats a part, as seldom as possible first. -/
def repeatReluctant (body : Continuation → Continuation) (least : Nat) (most : Option Nat)
    (k : Continuation) : Nat → Nat → Option Nat → Continuation
  | 0, _, _, _ => none
  | fuel + 1, count, last, place =>
      if count < least then body (repeatReluctant body least most k fuel (count + 1) last) place
      else
        match k place with
        | some result => some result
        | none =>
            if mayRepeat most count && last != some place.pos then
              body (repeatReluctant body least most k fuel (count + 1) (some place.pos)) place
            else none

/-- Repeats a part as often as possible, each round in its first way of matching. -/
def repeatPossessive (body : Continuation → Continuation) (least : Nat) (most : Option Nat) :
    Nat → Nat → Option Nat → Continuation
  | 0, _, _, _ => none
  | fuel + 1, count, last, place =>
      if count < least then
        match body some place with
        | some next => repeatPossessive body least most fuel (count + 1) last next
        | none => none
      else if mayRepeat most count && last != some place.pos then
        match body some place with
        | some next => repeatPossessive body least most fuel (count + 1) (some place.pos) next
        | none => some place
      else some place

/-- Repeats a part. -/
def repeatPart (size : Nat) (body : Continuation → Continuation) (least : Nat)
    (most : Option Nat) (greed : Greed) (k : Continuation) (place : Place) : Option Place :=
  let fuel := least + (size - place.pos) + 3
  match greed with
  | .greedy => repeatGreedy body least most k fuel 0 none place
  | .reluctant => repeatReluctant body least most k fuel 0 none place
  | .possessive =>
      match repeatPossessive body least most fuel 0 none place with
      | some next => k next
      | none => none

/-! ## Parts -/

/-- Whether the characters from `pos` on repeat those from `start` on, `count` of them. -/
def repeatsText (flags : Flags) (text : Array Char) (start pos : Nat) : Nat → Bool
  | 0 => true
  | count + 1 =>
      match text[start]?, text[pos]? with
      | some a, some b =>
          (if flags.ignoreCase then
            if flags.ascii then Text.lowerAsciiCode a.toNat == Text.lowerAsciiCode b.toNat
            else Text.lowerCode a.toNat == Text.lowerCode b.toNat
          else a == b) && repeatsText flags text (start + 1) (pos + 1) count
      | _, _ => false

/-- Matches a part at a place, and then what follows. -/
def Node.run (text : Array Char) : Node → Flags → Continuation → Continuation
  | .empty, _, k, place => k place
  | .code n, flags, k, place => takeChar text (flags.sameCode n) k place
  | .notCode n, flags, k, place => takeChar text (fun c => !flags.sameCode n c) k place
  | .any, flags, k, place => takeChar text (fun c => flags.dotAll || c != '\n') k place
  | .oneOf negated items, flags, k, place =>
      takeChar text (fun c => items.any (·.holds flags c) != negated) k place
  | .anchor kind, flags, k, place => if kind.holds flags text place.pos then k place else none
  | .seq a b, flags, k, place => a.run text flags (b.run text flags k) place
  | .alt a b, flags, k, place =>
      match a.run text flags k place with
      | some result => some result
      | none => b.run text flags k place
  | .capture index body, flags, k, place =>
      body.run text flags (fun next => k (next.mark (2 * (index - 1) + 1)))
        (place.mark (2 * (index - 1)))
  | .scoped on off body, flags, k, place => body.run text (flags.within on off) k place
  | .atomic body, flags, k, place =>
      match body.run text flags some place with
      | some next => k next
      | none => none
  | .look none false body, flags, k, place =>
      match body.run text flags some place with
      | some next => k { next with pos := place.pos }
      | none => none
  | .look none true body, flags, k, place =>
      match body.run text flags some place with
      | some _ => none
      | none => k place
  | .look (some width) false body, flags, k, place =>
      if place.pos < width.least then none
      else
        match body.run text flags some { place with pos := place.pos - width.least } with
        | some next => k { next with pos := place.pos }
        | none => none
  | .look (some width) true body, flags, k, place =>
      if place.pos < width.least then k place
      else
        match body.run text flags some { place with pos := place.pos - width.least } with
        | some _ => none
        | none => k place
  | .backref index, flags, k, place =>
      match place.span? index with
      | some (start, stop) =>
          if repeatsText flags text start place.pos (stop - start) then
            k (place.advance (stop - start))
          else none
      | none => none
  | .conditional index yes no, flags, k, place =>
      if (place.span? index).isSome then yes.run text flags k place
      else no.run text flags k place
  | .repeated least most greed body, flags, k, place =>
      match body.charTest? flags with
      | some test => repeatChar text test least most greed k place
      | none => repeatPart text.size (body.run text flags) least most greed k place

/-! ## Whole patterns -/

/-- A match: its span in the text and the spans of the groups. -/
structure Match where
  /-- The number of characters before the match. -/
  start : Nat
  /-- The number of characters up to its end. -/
  stop : Nat
  /-- The spans of the groups, in order; `none` for a group that took no part. -/
  groups : List (Option (Nat × Nat))
  deriving DecidableEq, Repr

/-- The match of the pattern at a place, if there is one. -/
def Regex.matchAt (regex : Regex) (flags : Flags) (text : Array Char) (pos : Nat) : Option Match :=
  let place : Place := ⟨pos, Array.replicate (2 * regex.groups) none⟩
  match regex.root.run text (flags.union regex.flags) some place with
  | some last =>
      some ⟨pos, last.pos, (List.range regex.groups).map fun index => last.span? (index + 1)⟩
  | none => none

/-- The first match at one of the `count` places from `pos` on. -/
def Regex.searchWithin (regex : Regex) (flags : Flags) (text : Array Char) : Nat → Nat → Option Match
  | 0, _ => none
  | count + 1, pos =>
      match regex.matchAt flags text pos with
      | some found => some found
      | none => regex.searchWithin flags text count (pos + 1)

/-- The first match from a place on. -/
def Regex.search (regex : Regex) (flags : Flags) (text : Array Char) (pos : Nat) : Option Match :=
  regex.searchWithin flags text (text.size + 1 - pos) pos

/-- The characters of a span. -/
def spanText (text : Array Char) (start stop : Nat) : String :=
  String.ofList (text.extract start stop).toList

end ChannelLint.Pattern
