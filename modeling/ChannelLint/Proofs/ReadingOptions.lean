import ChannelLint.Pattern.Parser

/-!
# Options that do not change reading

A pattern is read under options, and most of these only matter when it is matched. Two states of
reading are alike if they differ in such options only, and a reader is steady if from states that
are alike it ends alike: with the same error, or with the same value in states that are alike.
Pure results, faults, sequences and choices keep this property (`Agree`), so that each reader is
steady because the readers that it is made of are. `Regex.parse_eq_of_read_alike` is what follows
for whole patterns, and `Regex.parse_matching_options` for the options of rules.
-/

namespace ChannelLint.Pattern

open Reader

/-- Patterns are read the same way under both. -/
structure Flags.ReadAlike (a b : Flags) : Prop where
  verbose : a.verbose = b.verbose
  ascii : a.ascii = b.ascii
  unicode : a.unicode = b.unicode
  template : a.template = b.template

/-- The states differ at most in the options under which the pattern is read, and patterns are read
the same way under these. -/
def Reading.Alike (s t : Reading) : Prop :=
  ∃ given, t = { s with given := given } ∧ s.given.ReadAlike given

/-- Both end with the same error, or with the same value in states that are alike. -/
inductive EndAlike {α : Type} :
    Except PatternError (α × Reading) → Except PatternError (α × Reading) → Prop where
  | error (error : PatternError) : EndAlike (.error error) (.error error)
  | ok (value : α) {s t : Reading} (h : s.Alike t) : EndAlike (.ok (value, s)) (.ok (value, t))

/-- From states that are alike the readers end alike. -/
def Agree {α : Type} (left right : Reader α) : Prop :=
  ∀ s t : Reading, s.Alike t → EndAlike (left.run s) (right.run t)

/-- From states that are alike the reader ends alike. -/
abbrev Steady {α : Type} (reader : Reader α) : Prop :=
  Agree reader reader

namespace Agree

variable {α β : Type}

/-- A value that is returned at once. -/
theorem pure (value : α) : Steady (pure value) :=
  fun _ _ h => .ok value h

/-- What follows an error does not matter. -/
theorem throw_bind (error : PatternError) {next next' : α → Reader β} :
    Agree (throw error >>= next) (throw error >>= next') :=
  fun _ _ _ => .error error

/-- An error. -/
theorem throw (error : PatternError) : Steady (throw error : Reader α) :=
  fun _ _ _ => .error error

/-- One reader after the other. -/
theorem bind {left right : Reader α} {next next' : α → Reader β} (h : Agree left right)
    (hnext : ∀ value, Agree (next value) (next' value)) :
    Agree (left >>= next) (right >>= next') := by
  intro s t hst
  have hfirst := h s t hst
  simp only [StateT.run_bind]
  revert hfirst
  generalize left.run s = a
  generalize right.run t = b
  intro hfirst
  cases hfirst with
  | error error => exact .error error
  | ok value h => exact hnext value _ _ h

/-- Looking at the state, which is given with its other options on the right. -/
theorem get {next next' : Reading → Reader α}
    (h : ∀ s given, s.given.ReadAlike given → Agree (next s) (next' { s with given := given })) :
    Agree (get >>= next) (get >>= next') := by
  rintro s t ⟨given, rfl, hgiven⟩
  exact h s given hgiven s _ ⟨given, rfl, hgiven⟩

/-- Replacing the state. -/
theorem set {s t : Reading} (h : s.Alike t) : Agree (set s) (set t) :=
  fun _ _ _ => .ok () h

/-- Changing the state. -/
theorem modify {change change' : Reading → Reading}
    (h : ∀ s given, s.given.ReadAlike given →
      (change s).Alike (change' { s with given := given })) :
    Agree (modify change) (modify change') := by
  rintro s t ⟨given, rfl, hgiven⟩
  exact .ok () (h s given hgiven)

/-- A choice that does not depend on the state. -/
theorem ite {condition : Prop} [Decidable condition] {left left' right right' : Reader α}
    (h : Agree left right) (h' : Agree left' right') :
    Agree (if condition then left else left') (if condition then right else right') := by
  split
  · exact h
  · exact h'

end Agree

/-! ## Tokens and groups -/

theorem tell_steady : Steady tell :=
  .get fun _ _ _ => .pure _

theorem fail_steady {α : Type} (cause : Cause) (offset : Nat) :
    Steady (fail cause offset : Reader α) :=
  tell_steady.bind fun _ => .throw _

/-- What follows a fault does not matter. -/
theorem fail_bind {α β : Type} (cause : Cause) (offset : Nat) {next next' : α → Reader β} :
    Agree (fail cause offset >>= next) (fail cause offset >>= next') := by
  rintro s t ⟨given, rfl, h⟩
  exact .error _

theorem fail_at_steady {α : Type} (cause : Cause) (position : Nat) :
    Steady (failAt cause position : Reader α) :=
  .throw _

theorem check_dangling_steady : Steady checkDangling :=
  .get fun _ _ _ => .ite (fail_at_steady _ _) (.pure ())

theorem peek_steady : Steady peek :=
  .get fun _ _ _ => .pure _

theorem next_steady : Steady next := by
  refine .get fun s given h => ?_
  refine .bind (.set ⟨given, rfl, h⟩) fun _ => ?_
  exact check_dangling_steady.bind fun _ => .pure _

theorem accept_steady (c : Char) : Steady (accept c) := by
  refine peek_steady.bind fun token => ?_
  cases token with
  | none => exact .pure false
  | some token => exact .ite (next_steady.bind fun _ => .pure true) (.pure false)

theorem take_while_steady (test : Char → Bool) (limit : Nat) : Steady (takeWhile test limit) := by
  induction limit with
  | zero => exact .pure []
  | succ limit ih =>
      refine peek_steady.bind fun token => ?_
      cases token with
      | none => exact .pure []
      | some token =>
          exact .ite (next_steady.bind fun _ => ih.bind fun _ => .pure _) (.pure [])

theorem skip_past_steady (c : Char) : Steady (skipPast c) := by
  refine .get fun s given h => ?_
  refine .bind (.set ⟨given, rfl, h⟩) fun _ => ?_
  refine check_dangling_steady.bind fun _ => next_steady.bind fun token => ?_
  cases token with
  | none => exact .pure false
  | some token => exact .pure true

theorem take_name_steady (terminator : Char) (what : String) :
    Steady (takeName terminator what) := by
  refine .get fun s given h => ?_
  refine (skip_past_steady terminator).bind fun found => ?_
  exact .ite (.ite (fail_steady _ _) (fail_steady _ _)) (.ite (fail_steady _ _) (.pure _))

theorem group_count_steady : Steady groupCount :=
  .get fun _ _ _ => .pure _

theorem is_closed_steady (index : Nat) : Steady (isClosed index) :=
  .get fun _ _ _ => .pure _

theorem width_of_steady (node : Node) : Steady (widthOf node) :=
  .get fun _ _ _ => .pure _

theorem open_group_steady (name : Option (List Char)) : Steady (openGroup name) := by
  refine .get fun s given h => ?_
  cases name with
  | none => exact .bind (.set ⟨given, rfl, h⟩) fun _ => .pure _
  | some chars =>
      dsimp only
      split
      · exact fail_bind _ _
      · exact .bind (.set ⟨given, rfl, h⟩) fun _ => .pure _

theorem close_group_steady (index : Nat) (body : Node) : Steady (closeGroup index body) :=
  (width_of_steady body).bind fun _ => .modify fun _ given h => ⟨given, rfl, h⟩

theorem check_look_behind_steady (index : Nat) :
    Steady (checkLookBehind index) := by
  refine .get fun s given h => ?_
  dsimp only
  cases s.lookBehindGroups with
  | none => exact .pure ()
  | some before =>
      refine (is_closed_steady index).bind fun closed => ?_
      exact .ite (fail_steady _ _) (.ite (fail_steady _ _) (.pure ()))

/-! ## Escapes and classes -/

theorem hex_escape_steady (letter : Char) (count : Nat) :
    Steady (hexEscape letter count) := by
  refine (take_while_steady isHex count).bind fun digits => ?_
  exact .ite (fail_steady _ _) (.ite (fail_steady _ _) (.pure _))

theorem name_escape_steady [Library] : Steady nameEscape := by
  refine (accept_steady '{').bind fun found => .ite (fail_steady _ _) ?_
  refine (take_name_steady _ _).bind fun name => ?_
  cases Library.namedCharacter? (String.ofList name) with
  | none => exact fail_steady _ _
  | some c => exact .pure _

theorem common_escape_steady [Library] (c : Char) : Steady (commonEscape c) :=
  .ite (hex_escape_steady c 2) <| .ite (hex_escape_steady c 4) <| .ite (hex_escape_steady c 8) <|
    .ite name_escape_steady <| .ite (fail_steady _ _) (.pure _)

theorem octal_code_steady (digits : List Char) : Steady (octalCode digits) :=
  .ite (fail_steady _ _) (.pure _)

theorem class_escape_steady [Library] (c : Char) : Steady (classEscape c) := by
  unfold classEscape
  cases simpleEscape? c with
  | some code => exact .pure _
  | none =>
      cases categoryEscape? c with
      | some category => exact .pure _
      | none =>
          refine .ite ?_ ((common_escape_steady c).bind fun _ => .pure _)
          refine (take_while_steady isOctal 2).bind fun digits => ?_
          exact (octal_code_steady _).bind fun _ => .pure _

theorem group_reference_steady (digits : List Char) :
    Steady (groupReference digits) := by
  refine group_count_steady.bind fun count => .ite ?_ (fail_steady _ _)
  refine (is_closed_steady _).bind fun closed => .ite (fail_steady _ _) ?_
  exact (check_look_behind_steady _).bind fun _ => .pure _

theorem number_escape_steady (c : Char) : Steady (numberEscape c) := by
  refine (take_while_steady Char.isDigit 1).bind fun second => ?_
  match second with
  | [] => exact group_reference_steady [c]
  | [d] =>
      refine .ite ?_ (group_reference_steady [c, d])
      refine (take_while_steady isOctal 1).bind fun third => ?_
      exact .ite (group_reference_steady [c, d]) ((octal_code_steady _).bind fun _ => .pure _)
  | _ :: _ :: _ => exact group_reference_steady [c]

theorem escape_steady [Library] (c : Char) : Steady (escape c) := by
  unfold escape
  cases categoryEscape? c with
  | some category => exact .pure _
  | none =>
      cases anchorEscape? c with
      | some anchor => exact .pure _
      | none =>
          cases simpleEscape? c with
          | some code => exact .pure _
          | none =>
              refine .ite ((take_while_steady isOctal 2).bind fun _ => .pure _) ?_
              exact .ite (number_escape_steady c) ((common_escape_steady c).bind fun _ => .pure _)

theorem class_entry_steady [Library] (token : Token) : Steady (classEntry token) :=
  .ite (class_escape_steady _) (.pure _)

theorem class_items_steady [Library] (start fuel : Nat) (items : List ClassItem) :
    Steady (classItems start fuel items) := by
  induction fuel generalizing items with
  | zero => exact fail_at_steady _ _
  | succ fuel ih =>
      refine next_steady.bind fun this => ?_
      cases this with
      | none => exact fail_at_steady _ _
      | some this =>
          refine .ite (.pure _) ((class_entry_steady this).bind fun low => ?_)
          refine (accept_steady '-').bind fun dash => .ite (ih _) ?_
          refine next_steady.bind fun that => ?_
          cases that with
          | none => exact fail_at_steady _ _
          | some that =>
              refine .ite (.pure _) ((class_entry_steady that).bind fun high => ?_)
              -- only two code points make a range
              cases low with
              | code a =>
                  cases high with
                  | code b => exact .ite (fail_steady _ _) (ih _)
                  | range _ _ => exact fail_steady _ _
                  | category _ _ => exact fail_steady _ _
              | range _ _ => exact fail_steady _ _
              | category _ _ => exact fail_steady _ _

theorem character_class_steady [Library] (fuel : Nat) : Steady (characterClass fuel) := by
  refine tell_steady.bind fun position => (accept_steady '^').bind fun negated => ?_
  refine (class_items_steady _ _ _).bind fun items => ?_
  dsimp only
  split
  · exact .pure _
  · exact .pure _

/-! ## Repetition -/

theorem repeat_count_steady (digits : List Char) : Steady (repeatCount digits) :=
  .ite (.throw _) (.ite (.throw _) (.pure _))

theorem brace_bounds_steady (fuel : Nat) : Steady (braceBounds fuel) := by
  -- the state to go back to is alike, too
  refine .get fun saved given h => tell_steady.bind fun here => peek_steady.bind fun token => ?_
  cases token with
  | none => exact .pure none
  | some token =>
      refine .ite (.pure none) ((take_while_steady _ _).bind fun low => ?_)
      refine (accept_steady ',').bind fun comma => ?_
      have hmost : ∀ least high, Steady (do
          let most ← repeatCount high
          if most < least then failAt .repeatBounds here else pure (some (least, some most))) :=
        fun _ _ => (repeat_count_steady _).bind fun _ => .ite (fail_at_steady _ _) (.pure _)
      -- the upper bound is read after a comma and is the lower one without
      refine .ite ((take_while_steady _ _).bind fun high => ?_) (.bind (.pure low) fun high => ?_)
      all_goals
        refine (accept_steady '}').bind fun found => ?_
        refine .ite (.bind (.set ⟨given, rfl, h⟩) fun _ => .pure none) ?_
        exact .ite (.bind (.pure 0) fun least => .ite (.pure _) (hmost least high))
          ((repeat_count_steady low).bind fun least => .ite (.pure _) (hmost least high))

theorem greed_mark_steady : Steady greedMark :=
  (accept_steady '?').bind fun _ => .ite (.pure _) <|
    (accept_steady '+').bind fun _ => .ite (.pure _) (.pure _)

theorem repeat_last_steady (position : Nat) (bounds : Nat × Option Nat) (parts : List Node) :
    Steady (repeatLast position bounds parts) := by
  unfold repeatLast
  split
  · exact fail_at_steady _ _
  · exact fail_at_steady _ _
  · exact fail_at_steady _ _
  · exact greed_mark_steady.bind fun _ => .pure _

/-! ## Options of the pattern itself -/

theorem fail_at_flag_steady {α : Type} (token : Token) (missing : Cause) :
    Steady (failAtFlag token missing : Reader α) :=
  fail_steady _ _

theorem flags_on_steady (fuel : Nat) (flags : Flags) (letter : FlagLetter) :
    Steady (flagsOn fuel flags letter) := by
  induction fuel generalizing flags letter with
  | zero => exact fail_steady _ _
  | succ fuel ih =>
      cases letter with
      | locale => exact fail_steady _ _
      | flag flag =>
          refine .ite (fail_steady _ _) (next_steady.bind fun token => ?_)
          cases token with
          | none => exact fail_steady _ _
          | some token =>
              refine .ite (.pure _) ?_
              cases token.flagLetter? with
              | some letter => exact ih _ letter
              | none => exact fail_at_flag_steady _ _

theorem flags_off_steady (fuel : Nat) (flags : Flags) (letter : FlagLetter) :
    Steady (flagsOff fuel flags letter) := by
  induction fuel generalizing flags letter with
  | zero => exact fail_steady _ _
  | succ fuel ih =>
      cases letter with
      | locale => exact fail_steady _ _
      | flag flag =>
          refine .ite (fail_steady _ _) (next_steady.bind fun token => ?_)
          cases token with
          | none => exact fail_steady _ _
          | some token =>
              refine .ite (.pure _) ?_
              cases token.flagLetter? with
              | some letter => exact ih _ letter
              | none => exact fail_at_flag_steady _ _

theorem flags_after_dash_steady (fuel : Nat) :
    Steady (flagsAfterDash fuel) := by
  refine next_steady.bind fun token => ?_
  cases token with
  | none => exact fail_steady _ _
  | some token =>
      dsimp only
      cases token.flagLetter? with
      | some letter => exact flags_off_steady _ _ _
      | none => exact fail_at_flag_steady _ _

theorem inline_flags_steady (fuel : Nat) (first : Option FlagLetter) :
    Steady (inlineFlags fuel first) := by
  have hscoped : ∀ on off : Flags, Steady
      (if off.template then fail .turnOffGlobalFlag 1
        else if on.meets off then fail .flagOnAndOff 1 else pure (some (on, off))) :=
    fun _ _ => .ite (fail_steady _ _) (.ite (fail_steady _ _) (.pure _))
  unfold inlineFlags
  cases first
  case' some letter => refine (flags_on_steady fuel {} letter).bind fun (on, mark) => ?_
  case' none => refine .bind (.pure _) fun (on, mark) => ?_
  all_goals
    -- options for all of the pattern are added to those it has turned on, not to those given
    refine .ite (.bind (.modify fun _ given h => ⟨given, rfl, h⟩) fun _ => .pure none) ?_
    refine .ite (fail_steady _ _) ?_
    exact .ite ((flags_after_dash_steady fuel).bind (hscoped on)) (.bind (.pure _) (hscoped on))

/-! ## Groups -/

theorem check_name_steady (name : List Char) : Steady (checkName name) :=
  .ite (.pure ()) (fail_steady _ _)

theorem named_reference_steady : Steady namedReference := by
  refine (take_name_steady _ _).bind fun name => (check_name_steady name).bind fun _ => ?_
  refine .get fun s given h => ?_
  dsimp only
  cases s.names.find? (·.1 == String.ofList name) with
  | none => exact fail_steady _ _
  | some found =>
      refine (is_closed_steady _).bind fun closed => .ite (fail_steady _ _) ?_
      exact (check_look_behind_steady _).bind fun _ => .pure _

theorem condition_group_steady : Steady conditionGroup := by
  have hfound : ∀ index, Steady (do
      checkLookBehind index
      pure index) :=
    fun index => (check_look_behind_steady index).bind fun _ => .pure index
  refine (take_name_steady _ _).bind fun name => .ite ?_ ?_
  · refine .get fun s given h => ?_
    dsimp only
    cases s.names.find? (·.1 == String.ofList name) with
    | none => exact fail_bind _ _
    | some found => exact .bind (.pure _) hfound
  · split
    · refine .ite (fail_bind _ _) (.ite (fail_bind _ _) ?_)
      refine tell_steady.bind fun position => .bind (.modify fun s given h => ?_) fun _ =>
        .bind (.pure _) hfound
      dsimp only
      split
      · exact ⟨given, rfl, h⟩
      · exact ⟨given, rfl, h⟩
    · exact fail_bind _ _

theorem named_opening_steady : Steady namedOpening := by
  refine (accept_steady '<').bind fun named => .ite ?_ ?_
  · refine (take_name_steady _ _).bind fun name => ?_
    exact (check_name_steady name).bind fun _ => .pure _
  · refine (accept_steady '=').bind fun referring => .ite ?_ (next_steady.bind fun token => ?_)
    · exact named_reference_steady.bind fun _ => .pure _
    · cases token with
      | none => exact fail_steady _ _
      | some token => exact fail_steady _ _

theorem look_behind_opening_steady : Steady lookBehindOpening := by
  refine next_steady.bind fun token => ?_
  cases token with
  | none => exact fail_steady _ _
  | some token => exact .ite (.pure _) (.ite (.pure _) (fail_steady _ _))

theorem opening_steady (fuel start : Nat) : Steady (opening fuel start) := by
  refine (accept_steady '?').bind fun marked => .ite (.pure _) (next_steady.bind fun token => ?_)
  cases token with
  | none => exact fail_steady _ _
  | some token =>
      refine .ite named_opening_steady <| .ite (.pure _) <| .ite ?comment <| .ite (.pure _) <|
        .ite (.pure _) <| .ite look_behind_opening_steady <| .ite (.pure _) <| .ite (.pure _) <|
        .ite ?flags (fail_steady _ _)
      case comment =>
          exact (skip_past_steady ')').bind fun _ => .ite (.pure _) (fail_at_steady _ _)
      case flags =>
          refine (inline_flags_steady fuel _).bind fun flags => ?_
          cases flags with
          | none => exact .pure _
          | some flags => exact .pure _

theorem expect_close_steady (start : Nat) : Steady (expectClose start) :=
  (accept_steady ')').bind fun _ => .ite (fail_at_steady _ _) (.pure ())

theorem deeper_steady (room calls : Nat) : Steady (deeper room calls) :=
  .ite (.throw _) (.pure _)

/-! ## Sequences and alternatives -/

/-- All options that hold for the pattern are alike if those are under which it is read. -/
theorem Flags.ReadAlike.options {s : Reading} {given : Flags} (h : s.given.ReadAlike given) :
    s.options.ReadAlike ({ s with given := given } : Reading).options where
  verbose := congrArg (· || s.flags.verbose) h.verbose
  ascii := congrArg (· || s.flags.ascii) h.ascii
  unicode := congrArg (· || s.flags.unicode) h.unicode
  template := congrArg (· || s.flags.template) h.template

section Parts

variable [Library] {fuel : Nat}
  (halternatives : ∀ room verbose top first, Steady (alternatives fuel room verbose top first))
  (hsequence : ∀ room verbose first parts, Steady (sequence fuel room verbose first parts))
  (hgroup : ∀ room verbose start opened, Steady (group fuel room verbose start opened))

include halternatives hsequence in
theorem alternatives_steady_succ (room : Nat) (verbose top first : Bool) :
    Steady (alternatives (fuel + 1) room verbose top first) := by
  have hrest : ∀ item verbose, Steady (do
      let rest ← alternatives fuel room verbose top false
      pure (Node.alt (.ofList item) rest)) :=
    fun item verbose => (halternatives room verbose top false).bind fun _ => .pure _
  rw [alternatives]
  refine (hsequence _ _ _ _).bind fun item => (accept_steady '|').bind fun more => ?_
  refine .ite (.ite (.get fun s given h => ?_) (.bind (.pure _) (hrest item))) (.pure _)
  rw [h.options.verbose]
  exact .bind (.pure _) (hrest item)

include hsequence hgroup in
theorem sequence_steady_succ (room : Nat) (verbose first : Bool) (parts : List Node) :
    Steady (sequence (fuel + 1) room verbose first parts) := by
  rw [sequence]
  refine peek_steady.bind fun this => ?_
  cases this with
  | none => exact .pure _
  | some this =>
      refine .ite (.pure _) (next_steady.bind fun _ => ?_)
      refine .ite (hsequence _ _ _ _) <|
        .ite ((skip_past_steady _).bind fun _ => hsequence _ _ _ _) <|
        .ite ((escape_steady _).bind fun _ => hsequence _ _ _ _) <|
        .ite ((character_class_steady _).bind fun _ => hsequence _ _ _ _) <|
        .ite ((repeat_last_steady _ _ _).bind fun _ => hsequence _ _ _ _) <|
        .ite ((repeat_last_steady _ _ _).bind fun _ => hsequence _ _ _ _) <|
        .ite ((repeat_last_steady _ _ _).bind fun _ => hsequence _ _ _ _) <|
        .ite ?brace <| .ite (hsequence _ _ _ _) <| .ite (hsequence _ _ _ _) <|
        .ite (hsequence _ _ _ _) <| .ite ?parenthesis (hsequence _ _ _ _)
      case brace =>
          refine (brace_bounds_steady fuel).bind fun bounds => ?_
          cases bounds with
          | none => exact hsequence _ _ _ _
          | some bounds => exact (repeat_last_steady _ _ _).bind fun _ => hsequence _ _ _ _
      case parenthesis =>
          refine (opening_steady _ _).bind fun opened => ?_
          split
          · exact hsequence _ _ _ _
          · refine .ite (fail_at_steady _ _) (.get fun s given h => ?_)
            rw [h.options.verbose]
            exact hsequence _ _ _ _
          · exact (hgroup _ _ _ _).bind fun _ => hsequence _ _ _ _

include halternatives hsequence in
theorem group_steady_succ (room : Nat) (verbose : Bool) (start : Nat) (opened : Opening) :
    Steady (group (fuel + 1) room verbose start opened) := by
  match opened with
  | .capture name =>
      rw [group]
      refine (open_group_steady name).bind fun index => (deeper_steady _ _).bind fun inside => ?_
      refine (halternatives _ _ _ _).bind fun body => ?_
      refine (expect_close_steady start).bind fun _ => ?_
      exact (close_group_steady index body).bind fun _ => .pure _
  | .scoped on off =>
      rw [group]
      refine (deeper_steady _ _).bind fun inside => (halternatives _ _ _ _).bind fun body => ?_
      exact (expect_close_steady start).bind fun _ => .pure _
  | .atomic =>
      rw [group]
      refine (deeper_steady _ _).bind fun inside => (halternatives _ _ _ _).bind fun body => ?_
      exact (expect_close_steady start).bind fun _ => .pure _
  | .look false negated =>
      rw [group]
      refine (deeper_steady _ _).bind fun inside => (halternatives _ _ _ _).bind fun body => ?_
      exact (expect_close_steady start).bind fun _ => .pure _
  | .look true negated =>
      have hclose : ∀ body, Steady (do
          expectClose start
          pure (Node.look (some (← widthOf body)) negated body)) :=
        fun body => (expect_close_steady start).bind fun _ =>
          (width_of_steady body).bind fun _ => .pure _
      rw [group]
      refine .get fun s given h => ?_
      dsimp only
      split
      · refine .bind (.modify fun _ given h => ⟨given, rfl, h⟩) fun _ => ?_
        refine (deeper_steady _ _).bind fun inside => (halternatives _ _ _ _).bind fun body => ?_
        exact .bind (.modify fun _ given h => ⟨given, rfl, h⟩) fun _ => hclose body
      · exact (deeper_steady _ _).bind fun inside => (halternatives _ _ _ _).bind hclose
  | .conditional =>
      rw [group]
      refine condition_group_steady.bind fun index => (deeper_steady _ _).bind fun inside => ?_
      refine (hsequence _ _ _ _).bind fun yes => ?_
      have hclose : ∀ no, Steady (do
          expectClose start
          pure (Node.conditional index (.ofList yes) (.ofList no))) :=
        fun no => (expect_close_steady start).bind fun _ => .pure _
      refine (accept_steady '|').bind fun more => .ite ?_ (.bind (.pure []) hclose)
      refine (hsequence _ _ _ _).bind fun no => peek_steady.bind fun token => ?_
      cases token with
      | none => exact .bind (.pure no) hclose
      | some token => exact .ite (fail_bind _ _) (.bind (.pure no) hclose)
  | .done node => exact .pure node
  | .comment => exact .pure Node.empty
  | .globalFlags => exact .pure Node.empty

end Parts

/-- Reading alternatives, sequences and groups is steady; each of the three calls the others with
less fuel. -/
theorem parts_steady [Library] (fuel : Nat) :
    (∀ room verbose top first, Steady (alternatives fuel room verbose top first)) ∧
      (∀ room verbose first parts, Steady (sequence fuel room verbose first parts)) ∧
      (∀ room verbose start opened, Steady (group fuel room verbose start opened)) := by
  induction fuel with
  | zero =>
      have hspent : Steady (fail .unexpectedEnd 0 : Reader Node) := fail_steady _ _
      exact ⟨fun _ _ _ _ => hspent, fun _ _ _ _ => fail_steady _ _, fun _ _ _ _ => hspent⟩
  | succ fuel ih =>
      obtain ⟨halternatives, hsequence, hgroup⟩ := ih
      exact ⟨alternatives_steady_succ halternatives hsequence,
        sequence_steady_succ hsequence hgroup, group_steady_succ halternatives hsequence⟩

/-! ## Whole patterns -/

theorem check_references_steady : Steady checkReferences := by
  refine .get fun s given h => ?_
  dsimp only
  cases s.references.find? fun reference => s.widths.size ≤ reference.1 with
  | none => exact .pure ()
  | some reference => exact fail_at_steady _ _

theorem whole_pattern_steady [Library] (fuel : Nat) : Steady (wholePattern fuel) := by
  refine check_dangling_steady.bind fun _ => .get fun s given h => ?_
  rw [← h.options.verbose]
  refine ((parts_steady fuel).1 _ _ _ _).bind fun root => .get fun s given h => ?_
  dsimp only
  rw [← h.options.ascii, ← h.options.unicode, ← h.options.template]
  refine .ite (.throw_bind _) (peek_steady.bind fun token => ?_)
  refine .ite (fail_bind _ _) (check_references_steady.bind fun _ => .ite (.throw_bind _) ?_)
  cases root.fault? s.options.template with
  | some cause => exact .throw _
  | none => exact .pure root

/-- A pattern is read in the same way, and has the same faults, under options that are alike for
reading. -/
theorem Regex.parse_eq_of_read_alike [Library] {given given' : Flags} (h : given.ReadAlike given')
    (pattern : List Char) : Regex.parse given pattern = Regex.parse given' pattern := by
  unfold Regex.parse
  obtain ⟨tokens, dangling⟩ := tokenize 0 pattern
  have hends := whole_pattern_steady (4 * pattern.length + 8)
    { tokens, dangling, length := pattern.length, given := given } _ ⟨given', rfl, h⟩
  dsimp only
  revert hends
  generalize (wholePattern (4 * pattern.length + 8)).run _ = left
  generalize (wholePattern (4 * pattern.length + 8)).run _ = right
  intro hends
  cases hends with
  | error error => rfl
  | ok root halike =>
      obtain ⟨_, rfl, -⟩ := halike
      rfl

/-- Options on letter case and lines do not change how patterns are read. -/
theorem Regex.parse_matching_options [Library] (ignoreCase multiLine : Bool) (pattern : List Char) :
    Regex.parse { ignoreCase, multiLine } pattern = Regex.parse {} pattern := by
  have halike : Flags.ReadAlike { ignoreCase, multiLine } {} := ⟨rfl, rfl, rfl, rfl⟩
  exact Regex.parse_eq_of_read_alike halike pattern

end ChannelLint.Pattern
