import ChannelLint.Pattern.Parser
import ChannelLint.Proofs.Scanning

/-!
# Richer libraries

How deep a pattern may be nested, and which names of characters it may use, is up to the library.
What one library reads, a library with as much room and as many names reads as well, and in the
same way: `Regex.parse_of_within`. `Library.least` has room for groups that are not nested and knows
no names, and what it reads is read by all of them: `Regex.parse_of_least`.
-/

namespace ChannelLint

/-- The rich library has as much room as the poor one, and knows all the names of characters that
this one knows. -/
structure Library.Within (poor rich : Library) : Prop where
  nesting : poor.nesting ≤ rich.nesting
  names : ∀ name c, poor.namedCharacter? name = some c → rich.namedCharacter? name = some c

/-- The library that has room for groups which are not nested, and knows no names. -/
@[reducible] def Library.least : Library where
  nesting := 2
  namedCharacter? _ := none
  emoji? _ := none

theorem Library.least_within (library : Library) : Library.least.Within library where
  nesting := library.room_for_group
  names _ _ h := nomatch h

namespace Pattern

open Reader

/-- Whenever the left reader ends without an error, so does the right one, and in the same way. -/
def Extends {α : Type} (left right : Reader α) : Prop :=
  ∀ s result, left.run s = .ok result → right.run s = .ok result

namespace Extends

variable {α β : Type}

theorem refl (reader : Reader α) : Extends reader reader :=
  fun _ _ h => h

/-- A reader that never ends without an error is extended by all of them. -/
theorem throw_bind (error : PatternError) {next : α → Reader β} {right : Reader β} :
    Extends (throw error >>= next) right :=
  fun _ _ h => nomatch h

/-- A fault. -/
theorem fail (cause : Cause) (offset : Nat) {right : Reader α} :
    Extends (fail cause offset) right :=
  fun _ _ h => nomatch h

/-- One reader after the other. -/
theorem bind {left right : Reader α} {next next' : α → Reader β} (h : Extends left right)
    (hnext : ∀ value, Extends (next value) (next' value)) :
    Extends (left >>= next) (right >>= next') := by
  intro s result hresult
  rw [StateT.run_bind] at hresult ⊢
  obtain ⟨⟨value, t⟩, hvalue, hresult⟩ := bind_eq_ok.mp hresult
  rw [h s _ hvalue]
  exact hnext value t result hresult

/-- What follows a reader that is the same on both sides. -/
theorem after {reader : Reader α} {next next' : α → Reader β}
    (h : ∀ value, Extends (next value) (next' value)) :
    Extends (reader >>= next) (reader >>= next') :=
  bind (refl reader) h

/-- A choice. -/
theorem ite {condition : Prop} [Decidable condition] {left left' right right' : Reader α}
    (h : Extends left right) (h' : Extends left' right') :
    Extends (if condition then left else left') (if condition then right else right') := by
  split
  · exact h
  · exact h'

/-- Going deeper, with as much room on the right. -/
theorem deeper {room room' calls : Nat} (hroom : room ≤ room') {next next' : Nat → Reader α}
    (h : ∀ inside inside', inside ≤ inside' → Extends (next inside) (next' inside')) :
    Extends (deeper room calls >>= next) (deeper room' calls >>= next') := by
  unfold Pattern.deeper
  split
  · exact throw_bind _
  case isFalse hcalls =>
      rw [if_neg (by omega)]
      exact h (room - calls) (room' - calls) (by omega)

end Extends

section Within

variable {poor rich : Library} (hwithin : poor.Within rich)
include hwithin

/-! ## Escapes and classes -/

theorem name_escape_extends : Extends (@nameEscape poor) (@nameEscape rich) := by
  refine .after fun found => .ite (.refl _) (.after fun name => ?_)
  cases hname : poor.namedCharacter? (String.ofList name) with
  | none => exact .fail _ _
  | some c =>
      rw [hwithin.names _ c hname]
      exact .refl _

theorem common_escape_extends (c : Char) :
    Extends (@commonEscape poor c) (@commonEscape rich c) :=
  .ite (.refl _) <| .ite (.refl _) <| .ite (.refl _) <|
    .ite (name_escape_extends hwithin) (.refl _)

theorem class_escape_extends (c : Char) :
    Extends (@classEscape poor c) (@classEscape rich c) := by
  unfold classEscape
  split
  · exact .refl _
  · split
    · exact .refl _
    · exact .ite (.refl _) ((common_escape_extends hwithin c).bind fun _ => .refl _)

theorem escape_extends (c : Char) : Extends (@escape poor c) (@escape rich c) := by
  unfold escape
  split
  · exact .refl _
  · split
    · exact .refl _
    · split
      · exact .refl _
      · refine .ite (.refl _) (.ite (.refl _) ?_)
        exact (common_escape_extends hwithin c).bind fun _ => .refl _

theorem class_entry_extends (token : Token) :
    Extends (@classEntry poor token) (@classEntry rich token) :=
  .ite (class_escape_extends hwithin _) (.refl _)

theorem class_items_extends (start fuel : Nat) (items : List ClassItem) :
    Extends (@classItems poor start fuel items) (@classItems rich start fuel items) := by
  induction fuel generalizing items with
  | zero => exact .refl _
  | succ fuel ih =>
      refine .after fun this => ?_
      cases this with
      | none => exact .refl _
      | some this =>
          refine .ite (.refl _) ((class_entry_extends hwithin this).bind fun low => ?_)
          refine .after fun dash => .ite (ih _) (.after fun that => ?_)
          cases that with
          | none => exact .refl _
          | some that =>
              refine .ite (.refl _) ((class_entry_extends hwithin that).bind fun high => ?_)
              dsimp only
              split
              · exact .ite (.refl _) (ih _)
              · exact .refl _

theorem character_class_extends (fuel : Nat) :
    Extends (@characterClass poor fuel) (@characterClass rich fuel) :=
  .after fun _ => .after fun _ => (class_items_extends hwithin _ _ _).bind fun _ => .refl _

/-! ## Sequences and alternatives -/

section Parts

variable {fuel : Nat}
  (halternatives : ∀ room room', room ≤ room' → ∀ verbose top first,
    Extends (@alternatives poor fuel room verbose top first)
      (@alternatives rich fuel room' verbose top first))
  (hsequence : ∀ room room', room ≤ room' → ∀ verbose first parts,
    Extends (@sequence poor fuel room verbose first parts)
      (@sequence rich fuel room' verbose first parts))
  (hgroup : ∀ room room', room ≤ room' → ∀ verbose start opened,
    Extends (@group poor fuel room verbose start opened)
      (@group rich fuel room' verbose start opened))

variable {room room' : Nat} (hroom : room ≤ room')
include hroom

omit hwithin in
include halternatives hsequence in
theorem alternatives_extends_succ (verbose top first : Bool) :
    Extends (@alternatives poor (fuel + 1) room verbose top first)
      (@alternatives rich (fuel + 1) room' verbose top first) := by
  refine (hsequence _ _ hroom _ _ _).bind fun item => .after fun more => .ite ?_ (.refl _)
  have hrest : ∀ verbose, Extends
      (@alternatives poor fuel room verbose top false >>= fun rest =>
        pure (Node.alt (.ofList item) rest))
      (@alternatives rich fuel room' verbose top false >>= fun rest =>
        pure (Node.alt (.ofList item) rest)) :=
    fun verbose => (halternatives _ _ hroom _ _ _).bind fun _ => .refl _
  exact .ite (.after fun _ => .after hrest) (.after hrest)

include hsequence hgroup in
theorem sequence_extends_succ (verbose first : Bool) (parts : List Node) :
    Extends (@sequence poor (fuel + 1) room verbose first parts)
      (@sequence rich (fuel + 1) room' verbose first parts) := by
  have hgo := hsequence _ _ hroom
  refine .after fun this => ?_
  cases this with
  | none => exact .refl _
  | some this =>
      refine .ite (.refl _) (.after fun _ => ?_)
      refine .ite (hgo _ _ _) <| .ite (.after fun _ => hgo _ _ _) <|
        .ite ((escape_extends hwithin _).bind fun _ => hgo _ _ _) <|
        .ite ((character_class_extends hwithin _).bind fun _ => hgo _ _ _) <|
        .ite (.after fun _ => hgo _ _ _) <| .ite (.after fun _ => hgo _ _ _) <|
        .ite (.after fun _ => hgo _ _ _) <| .ite ?brace <| .ite (hgo _ _ _) <|
        .ite (hgo _ _ _) <| .ite (hgo _ _ _) <| .ite ?parenthesis (hgo _ _ _)
      case brace =>
          refine .after fun bounds => ?_
          cases bounds with
          | none => exact hgo _ _ _
          | some bounds => exact .after fun _ => hgo _ _ _
      case parenthesis =>
          refine .after fun opened => ?_
          split
          · exact hgo _ _ _
          · exact .ite (.refl _) (.after fun _ => hgo _ _ _)
          · exact (hgroup _ _ hroom _ _ _).bind fun _ => hgo _ _ _

omit hwithin in
include halternatives hsequence in
theorem group_extends_succ (verbose : Bool) (start : Nat) (opened : Opening) :
    Extends (@group poor (fuel + 1) room verbose start opened)
      (@group rich (fuel + 1) room' verbose start opened) := by
  -- all groups but conditionals go on with alternatives and then read alike whatever these are
  have hbody : ∀ {β : Type} (verbose : Bool) (next : Node → Reader β), Extends
      (deeper room 2 >>= fun inside =>
        @alternatives poor fuel inside verbose false true >>= next)
      (deeper room' 2 >>= fun inside =>
        @alternatives rich fuel inside verbose false true >>= next) :=
    fun verbose next => .deeper hroom fun _ _ hinside =>
      (halternatives _ _ hinside _ _ _).bind fun _ => .refl _
  match opened with
  | .capture name => exact .after fun index => hbody _ _
  | .scoped on off => exact hbody _ _
  | .atomic => exact hbody _ _
  | .look false negated => exact hbody _ _
  | .look true negated => exact .after fun _ => .ite (.after fun _ => hbody _ _) (hbody _ _)
  | .conditional =>
      refine .after fun index => .deeper hroom fun _ _ hinside => ?_
      refine (hsequence _ _ hinside _ _ _).bind fun yes => .after fun more => ?_
      exact .ite ((hsequence _ _ hinside _ _ _).bind fun no => .refl _) (.refl _)
  | .done node => exact .refl _
  | .comment => exact .refl _
  | .globalFlags => exact .refl _

end Parts

/-- Alternatives, sequences and groups are read alike with as much room; each of the three calls the
others with less fuel. -/
theorem parts_extend (fuel : Nat) :
    (∀ room room', room ≤ room' → ∀ verbose top first,
      Extends (@alternatives poor fuel room verbose top first)
        (@alternatives rich fuel room' verbose top first)) ∧
    (∀ room room', room ≤ room' → ∀ verbose first parts,
      Extends (@sequence poor fuel room verbose first parts)
        (@sequence rich fuel room' verbose first parts)) ∧
    (∀ room room', room ≤ room' → ∀ verbose start opened,
      Extends (@group poor fuel room verbose start opened)
        (@group rich fuel room' verbose start opened)) := by
  induction fuel with
  | zero =>
      exact ⟨fun _ _ _ _ _ _ => .refl _, fun _ _ _ _ _ _ => .refl _, fun _ _ _ _ _ _ => .refl _⟩
  | succ fuel ih =>
      obtain ⟨halternatives, hsequence, hgroup⟩ := ih
      exact ⟨fun _ _ hroom => alternatives_extends_succ halternatives hsequence hroom,
        fun _ _ hroom => sequence_extends_succ hwithin hsequence hgroup hroom,
        fun _ _ hroom => group_extends_succ halternatives hsequence hroom⟩

/-! ## Whole patterns -/

theorem whole_pattern_extends (fuel : Nat) :
    Extends (@wholePattern poor fuel) (@wholePattern rich fuel) := by
  refine .after fun _ => .after fun s => ?_
  refine ((parts_extend hwithin fuel).1 _ _ hwithin.nesting _ _ _).bind fun root => ?_
  refine .after fun s => .ite (.refl _) (.after fun token => .ite (.refl _) (.after fun _ => ?_))
  by_cases hheight : poor.nesting < root.height
  · rw [if_pos hheight]
    exact .throw_bind _
  · have hnesting := hwithin.nesting
    rw [if_neg hheight, if_neg (by omega)]
    exact .refl _

/-- What a library reads, a library with as much room and as many names reads in the same way. -/
theorem Regex.parse_of_within {given : Flags} {pattern : List Char} {regex : Regex}
    (h : @Regex.parse poor given pattern = .ok regex) :
    @Regex.parse rich given pattern = .ok regex := by
  obtain ⟨⟨root, s⟩, hread, h⟩ := bind_eq_ok.mp h
  refine bind_eq_ok.mpr ⟨(root, s), ?_, h⟩
  exact whole_pattern_extends hwithin _ _ _ hread

end Within

/-- What the least library reads, all of them read in the same way. -/
theorem Regex.parse_of_least [library : Library] {given : Flags} {pattern : List Char}
    {regex : Regex} (h : @Regex.parse Library.least given pattern = .ok regex) :
    Regex.parse given pattern = .ok regex :=
  parse_of_within library.least_within h

end Pattern

end ChannelLint
