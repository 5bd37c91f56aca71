/-!
# Pattern syntax

The syntax trees of search patterns: characters, classes, anchors, groups, look-around, back
references, conditionals and repetition. A tree does not depend on the options under which it is
matched; options that a pattern turns on or off for a part of itself are nodes of the tree.
-/

namespace ChannelLint.Pattern

/-- The options under which a pattern is matched. -/
structure Flags where
  /-- Letters match without regard to case. -/
  ignoreCase : Bool := false
  /-- `^` and `$` match at every line. -/
  multiLine : Bool := false
  /-- The dot matches a line feed too. -/
  dotAll : Bool := false
  /-- Blanks and comments in the pattern are skipped. -/
  verbose : Bool := false
  /-- Classes and case are those of ASCII. -/
  ascii : Bool := false
  /-- Classes and case are those of Unicode. -/
  unicode : Bool := false
  /-- Repetition is refused. -/
  template : Bool := false
  deriving DecidableEq, Repr

/-- One option. -/
inductive Flag where
  | ignoreCase
  | multiLine
  | dotAll
  | verbose
  | ascii
  | unicode
  | template
  deriving DecidableEq, Repr

namespace Flags

/-- The options with one turned on. -/
def turnOn (flags : Flags) : Flag → Flags
  | .ignoreCase => { flags with ignoreCase := true }
  | .multiLine => { flags with multiLine := true }
  | .dotAll => { flags with dotAll := true }
  | .verbose => { flags with verbose := true }
  | .ascii => { flags with ascii := true }
  | .unicode => { flags with unicode := true }
  | .template => { flags with template := true }

/-- The options combined position by position. -/
def combine (op : Bool → Bool → Bool) (a b : Flags) : Flags where
  ignoreCase := op a.ignoreCase b.ignoreCase
  multiLine := op a.multiLine b.multiLine
  dotAll := op a.dotAll b.dotAll
  verbose := op a.verbose b.verbose
  ascii := op a.ascii b.ascii
  unicode := op a.unicode b.unicode
  template := op a.template b.template

/-- The options that are on in either. -/
def union (a b : Flags) : Flags :=
  combine or a b

/-- The options that are on in the first and not in the second. -/
def minus (a b : Flags) : Flags :=
  combine (fun x y => x && !y) a b

/-- Whether some option is on in both. -/
def meets (a b : Flags) : Bool :=
  combine and a b != {}

/-- The options inside a part that turns some on and some off; choosing the character set replaces
the choice made outside. -/
def within (flags on off : Flags) : Flags :=
  let outer := if on.ascii || on.unicode then { flags with ascii := false, unicode := false } else flags
  (outer.union on).minus off

end Flags

/-- A kind of characters that an escape names. -/
inductive Category where
  /-- Decimal digits. -/
  | digit
  /-- Blanks. -/
  | space
  /-- Letters, numerals and the underscore. -/
  | word
  deriving DecidableEq, Repr

/-- One entry of a character class. -/
inductive ClassItem where
  /-- The character of the given code point. -/
  | code (n : Nat)
  /-- The characters between two code points, both included. -/
  | range (low high : Nat)
  /-- The characters of a kind, or all others. -/
  | category (kind : Category) (negated : Bool)
  deriving DecidableEq, Repr

/-- A condition on the place between two characters. -/
inductive Anchor where
  /-- The start of the text or of a line. -/
  | start
  /-- The end of the text or of a line. -/
  | finish
  /-- The start of the text. -/
  | textStart
  /-- The end of the text. -/
  | textEnd
  /-- A word starts or ends here. -/
  | boundary
  /-- No word starts or ends here. -/
  | notBoundary
  deriving DecidableEq, Repr

/-- How a repetition chooses its number of rounds. -/
inductive Greed where
  /-- As many rounds as possible first. -/
  | greedy
  /-- As few rounds as possible first. -/
  | reluctant
  /-- As many rounds as possible, without going back. -/
  | possessive
  deriving DecidableEq, Repr

/-- The least and the greatest length of what a part matches. -/
structure Width where
  /-- The least length. -/
  least : Nat
  /-- The greatest length. -/
  greatest : Nat
  deriving DecidableEq, Repr

/-- A part of a pattern. -/
inductive Node where
  /-- Nothing. -/
  | empty
  /-- The character of a code point. -/
  | code (n : Nat)
  /-- Any character but that of a code point. -/
  | notCode (n : Nat)
  /-- Any character, line feeds excepted unless the options say otherwise. -/
  | any
  /-- A character of the class, or one outside it. -/
  | oneOf (negated : Bool) (items : List ClassItem)
  /-- A condition on the place. -/
  | anchor (kind : Anchor)
  /-- One part after the other. -/
  | seq (first second : Node)
  /-- The first part, or else the second. -/
  | alt (first second : Node)
  /-- A part whose match is kept under a number. -/
  | capture (index : Nat) (body : Node)
  /-- A part for which options are turned on and off. -/
  | scoped (on off : Flags) (body : Node)
  /-- A part whose first way of matching is the only one tried. -/
  | atomic (body : Node)
  /-- Whether a part matches here, or ends here when the width of a look behind is given. -/
  | look (behind : Option Width) (negated : Bool) (body : Node)
  /-- The text that a group has matched. -/
  | backref (index : Nat)
  /-- The first part if a group has matched, else the second. -/
  | conditional (index : Nat) (yes no : Node)
  /-- A part repeated; `none` stands for no upper bound. -/
  | repeated (least : Nat) (most : Option Nat) (greed : Greed) (body : Node)
  deriving Repr

/-- The bound at which widths stop growing. -/
def maxWidth : Nat := Nat.pow 2 64

/-- The width of a part, given the widths of the groups. -/
def Node.width (groups : Nat → Width) : Node → Width
  | .empty => ⟨0, 0⟩
  | .code _ | .notCode _ | .any | .oneOf _ _ => ⟨1, 1⟩
  | .anchor _ | .look _ _ _ => ⟨0, 0⟩
  | .seq a b =>
      let wa := a.width groups
      let wb := b.width groups
      ⟨min (wa.least + wb.least) maxWidth, min (wa.greatest + wb.greatest) maxWidth⟩
  | .alt a b =>
      let wa := a.width groups
      let wb := b.width groups
      ⟨min wa.least wb.least, max wa.greatest wb.greatest⟩
  | .capture _ body | .scoped _ _ body | .atomic body => body.width groups
  | .backref index => groups index
  | .conditional _ yes no =>
      let wy := yes.width groups
      let wn := no.width groups
      ⟨min wy.least wn.least, max wy.greatest wn.greatest⟩
  | .repeated least most _ body =>
      let w := body.width groups
      let greatest := match most with
        | some n => w.greatest * n
        | none => if w.greatest == 0 then 0 else maxWidth
      ⟨min (w.least * least) maxWidth, min greatest maxWidth⟩

/-- The parts in sequence. -/
def Node.ofList : List Node → Node
  | [] => .empty
  | [node] => node
  | node :: rest => .seq node (ofList rest)

/-- A pattern that has been read. -/
structure Regex where
  /-- The whole pattern. -/
  root : Node
  /-- The options that the pattern turns on for itself. -/
  flags : Flags
  /-- The number of groups. -/
  groups : Nat
  /-- The named groups in order of appearance. -/
  names : List (String × Nat)
  deriving Repr

end ChannelLint.Pattern
