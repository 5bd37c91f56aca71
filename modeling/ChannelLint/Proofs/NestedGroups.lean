import ChannelLint.Proofs.RefusedTables

/-!
# Nested groups

However much room a library has, a pattern that starts with more opening parentheses than there is
room for is nested too deeply, whatever follows them (`Regex.parse_of_open_groups`): each group
takes two calls, and the reader gives up at the first one that is left without. A table with such a
pattern in its first rule ends in an error that is no configuration error, with every library
(`Config.of_table_of_open_groups`).
-/

namespace ChannelLint

namespace Pattern

open Reader

/-- At least so many of the tokens, from the first one on, are opening parentheses. -/
def Opens : Nat → List Token → Prop
  | 0, _ => True
  | _ + 1, [] => False
  | count + 1, token :: rest => token.is '(' = true ∧ Opens count rest

theorem Opens.two {count : Nat} {tokens : List Token} (h : Opens (count + 2) tokens) :
    ∃ this that rest, tokens = this :: that :: rest ∧ this.is '(' = true ∧ that.is '(' = true ∧
      Opens (count + 1) (that :: rest) := by
  match tokens, h with
  | this :: that :: rest, ⟨hthis, hrest⟩ => exact ⟨this, that, rest, rfl, hthis, hrest.1, hrest⟩

/-- The tokens of a pattern that starts with opening parentheses do so, too. -/
theorem opens_tokenize (count position : Nat) (rest : List Char) :
    Opens count (tokenize position (List.replicate count '(' ++ rest)).1 := by
  induction count generalizing position with
  | zero => exact trivial
  | succ count ih => exact ⟨rfl, ih (position + 1)⟩

/-- An opening parenthesis is the character alone. -/
theorem Token.eq_of_open {token : Token} (h : token.is '(' = true) :
    token = ⟨'(', false, token.position⟩ := by
  obtain ⟨c, escaped, position⟩ := token
  simp only [Token.is, Bool.and_eq_true, Bool.not_eq_true', beq_iff_eq] at h
  rw [h.1, h.2]

/-! ## Readers step by step -/

section Runs

variable {α β : Type} {s t : Reading} {this that : Token} {rest : List Token}

/-- What follows an error does not matter. -/
theorem run_bind_error {reader : Reader α} {next : α → Reader β} {error : PatternError}
    (h : reader.run s = .error error) : (reader >>= next).run s = .error error := by
  rw [StateT.run_bind, h]
  rfl

/-- What follows a reader that has ended well goes on from there. -/
theorem run_bind_ok {reader : Reader α} {next : α → Reader β} {value : α}
    (h : reader.run s = .ok (value, t)) : (reader >>= next).run s = (next value).run t := by
  rw [StateT.run_bind, h]
  rfl

theorem check_dangling_run (htokens : s.tokens = this :: rest) :
    checkDangling.run s = .ok ((), s) := by
  obtain ⟨tokens, dangling⟩ := s
  subst htokens
  cases dangling <;> rfl

theorem peek_run (htokens : s.tokens = this :: rest) : peek.run s = .ok (some this, s) := by
  have hpeek : peek.run s = .ok (s.tokens.head?, s) := rfl
  rw [hpeek, htokens]
  rfl

/-- A token that is not the last one is taken. -/
theorem next_run (htokens : s.tokens = this :: that :: rest) :
    next.run s = .ok (some this, { s with tokens := that :: rest }) := by
  obtain ⟨tokens, dangling⟩ := s
  subst htokens
  cases dangling <;> rfl

/-- Another token than the one that is asked for stays. -/
theorem accept_run_other {c : Char} (htokens : s.tokens = this :: rest) (hc : this.is c = false) :
    (accept c).run s = .ok (false, s) := by
  rw [accept, run_bind_ok (peek_run htokens)]
  simp only [hc]
  rfl

/-- Of two opening parentheses, the first one opens a group that is kept. -/
theorem opening_run (fuel start : Nat) (htokens : s.tokens = that :: rest)
    (hthat : that.is '(' = true) : (opening fuel start).run s = .ok (.capture none, s) := by
  have hmark : that.is '?' = false := by
    rw [Token.eq_of_open hthat]
    rfl
  rw [opening, run_bind_ok (accept_run_other htokens hmark)]
  rfl

end Runs

/-! ## Too many groups -/

section Groups

variable [Library] {fuel room : Nat} {s : Reading}

/-- A sequence that starts with two opening parentheses starts with a group. -/
theorem sequence_run_open {this that : Token} {rest : List Token} (verbose first : Bool)
    (parts : List Node) (htokens : s.tokens = this :: that :: rest) (hthis : this.is '(' = true)
    (hthat : that.is '(' = true) :
    (sequence (fuel + 1) room verbose first parts).run s =
      (do
        let node ← group fuel room verbose this.position (.capture none)
        sequence fuel room verbose first (node :: parts)).run
          { s with tokens := that :: rest } := by
  obtain ⟨c, escaped, position⟩ := this
  obtain ⟨rfl, rfl⟩ : c = '(' ∧ escaped = false := by simpa using Token.eq_of_open hthis
  rw [sequence, run_bind_ok (peek_run htokens)]
  cases verbose
  all_goals
    refine (run_bind_ok (next_run htokens)).trans ?_
    exact run_bind_ok (opening_run fuel position rfl hthat)

/-- With more opening parentheses than there is room for, alternatives are nested too deeply. -/
theorem alternatives_run_open {count : Nat} (hroom : room < 2 * count) (hfuel : 3 * count ≤ fuel)
    (hopens : Opens (count + 1) s.tokens) (verbose top first : Bool) :
    (alternatives fuel room verbose top first).run s = .error .nestedTooDeeply := by
  induction count generalizing fuel room s verbose top first with
  | zero => omega
  | succ count ih =>
      obtain ⟨fuel, rfl⟩ : ∃ less, fuel = less + 3 := ⟨fuel - 3, by omega⟩
      obtain ⟨this, that, rest, htokens, hthis, hthat, hrest⟩ := hopens.two
      -- the first part of the first alternative is a group, and all else follows that
      rw [alternatives]
      refine run_bind_error ?_
      rw [sequence_run_open _ _ _ htokens hthis hthat]
      refine run_bind_error ?_
      rw [group]
      refine (run_bind_ok rfl).trans ?_
      by_cases hcalls : room < 2
      · rw [deeper, if_pos hcalls]
        rfl
      · rw [deeper, if_neg hcalls]
        refine (run_bind_ok rfl).trans (run_bind_error ?_)
        exact ih (by omega) (by omega) hrest _ _ _

end Groups

/-- A pattern that starts with more opening parentheses than there is room for is nested too deeply,
whatever follows them. -/
theorem Regex.parse_of_open_groups [Library] (given : Flags) {count : Nat}
    (hroom : Library.nesting < 2 * count) (rest : List Char) :
    Regex.parse given (List.replicate (count + 1) '(' ++ rest) = .error .nestedTooDeeply := by
  have hopens := opens_tokenize (count + 1) 0 rest
  rw [Regex.parse]
  generalize tokenize 0 (List.replicate (count + 1) '(' ++ rest) = read at hopens ⊢
  obtain ⟨tokens, dangling⟩ := read
  cases tokens with
  | nil => exact hopens.elim
  | cons this tokens =>
      have hread : ∀ s : Reading, s.tokens = this :: tokens → ∀ fuel, 3 * count ≤ fuel →
          (wholePattern fuel).run s = .error .nestedTooDeeply := by
        intro s htokens fuel hfuel
        rw [wholePattern, run_bind_ok (check_dangling_run htokens)]
        refine (run_bind_ok rfl).trans (run_bind_error ?_)
        exact alternatives_run_open hroom hfuel (htokens ▸ hopens) _ _ _
      dsimp only
      rw [hread _ rfl]
      · rfl
      · simp only [List.length_append, List.length_replicate]
        omega

end Pattern

open Pattern (Regex)

namespace Config

/-- A table whose first rule has such a pattern ends in an error that is no configuration error. -/
theorem of_table_of_open_groups [Library] (scope : String) {count : Nat}
    (hroom : Library.nesting < 2 * count) (rest : List Char) (rules : List Value) :
    let pattern := String.ofList (List.replicate (count + 1) '(' ++ rest)
    ofTable scope [("rules", .array (.table [("pattern", .string pattern)] :: rules))] =
      .error .nestedTooDeeply := by
  intro pattern
  have hempty : pattern.isEmpty = false := by
    simp [pattern, List.replicate_succ]
  have hfields : Rule.ofFields (Rule.itemPath (fieldPath scope "rules") 0)
      (.table [("pattern", .string pattern)]) = .ok { pattern } := by
    simp only [Rule.ofFields, Rule.takeFields, hempty]
    rfl
  have hread : Regex.parse {} pattern.toList = .error .nestedTooDeeply := by
    rw [String.toList_ofList]
    exact Regex.parse_of_open_groups {} hroom rest
  refine (of_table_stumbles.mpr ?_).1
  exact ⟨[], _, rules, [], rfl, rfl, { pattern }, _, hfields, hread, .nestedTooDeeply⟩

end Config

end ChannelLint
