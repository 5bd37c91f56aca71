import ChannelLint.Proofs.PlacedLines

/-!
# Well-indented scripts

A `Layout` is a tree of blocks whose lines are sorted by what the depth machine makes of them: a
header only opens a block, a continuation closes one and opens another, an ending only closes, and
all others do neither. `Layout.lines` prints it, each line at its nesting depth. `Layout.prints`
says that the machine finds the nesting depth of every line, and `script_layout_clean` that the
printed text is clean.

The machine goes down one line after the header that opens a block. The invariant is therefore about
`opened`, the depth at which the next line stands unless it closes a block.
-/

namespace ChannelLint

open Text Indentation

namespace Script

/-! ## Blank code -/

/-- Blank code closes no block. -/
theorem closes_of_blank {code : List Char} (h : isBlankText code = true) : closes code = false := by
  have htrim : trimStart code = [] := by
    simpa [trimStart, isBlankText, List.dropWhile_eq_nil_iff] using h
  rw [closes, htrim]
  rfl

/-- In blank code there is no place that satisfies a test which no blank text satisfies. -/
theorem somewhere_of_blank {test : Bool → List Char → Bool}
    (htest : ∀ inWord text, isBlankText text = true → test inWord text = false) {code : List Char}
    (h : isBlankText code = true) (inWord : Bool) : somewhere test inWord code = false := by
  induction code generalizing inWord with
  | nil => exact htest inWord [] h
  | cons c code ih =>
      rw [somewhere, htest inWord _ h, Bool.false_or]
      exact ih (Bool.and_eq_true_iff.mp h).2 (isWord c)

/-- Blank code opens no block. -/
theorem opens_of_blank {code : List Char} (h : isBlankText code = true) : opens code = false := by
  have htrim : trimStart code = [] := by
    simpa [trimStart, isBlankText, List.dropWhile_eq_nil_iff] using h
  have hexpression : hasFunctionExpression code = false := by
    refine somewhere_of_blank (fun _ text htext => ?_) h false
    cases text with
    | nil => rfl
    | cons c rest =>
        have hc : isBlank c = true := (Bool.and_eq_true_iff.mp htext).1
        have hmark : ['=', ':', '(', ','].contains c = false := by
          simp only [List.contains_eq_mem, decide_eq_false_iff_not, List.mem_cons, List.not_mem_nil,
            or_false]
          rintro (rfl | rfl | rfl | rfl) <;> exact absurd hc (by decide)
        simp only [hmark, Bool.false_and]
  have hbracket : endsWithBracket code = false := by
    rw [endsWithBracket, trim_end_eq_nil_iff.mpr h]
    rfl
  have hconditional : isConditional code = false := by
    rw [isConditional, htrim]
    rfl
  have hstart : startsBlock code = false := by
    rw [startsBlock, htrim, hexpression, hbracket]
    rfl
  simp [opens, hconditional, hstart]

/-- The code of a blank line is blank. -/
theorem code_of_blank {line : List Char} (hline : '\n' ∉ line) (h : isBlankText line = true) :
    isBlankText (codeOf line) = true := by
  have hcode : codeOf line <+: line := by
    have hstrip := Comment.strip_script_append hline (.inl rfl)
    rw [List.append_nil, List.append_nil] at hstrip
    rw [codeOf, hstrip]
    exact (List.rdropWhile_prefix _ _).trans (Comment.script_code_initial false line)
  rw [isBlankText, List.all_eq_true] at h ⊢
  exact fun c hc => h c (hcode.subset hc)

/-! ## Layouts -/

/-- The text of a script line that is not blank, without its indentation and its end: whether it
opens a block, and whether it closes one. -/
structure Statement (opening closing : Bool) where
  /-- The characters of the line. -/
  text : List Char
  unbroken : '\n' ∉ text
  not_blank : isBlankText text = false
  flush : leading text = []
  opens_eq : opens (codeOf text) = opening
  closes_eq : closes (codeOf text) = closing

/-- The parts that layouts are made of. -/
inductive Part where
  /-- Lines and blocks one after the other. -/
  | body
  /-- What follows the first body of a block. -/
  | tail

/-- A script by its blocks. -/
inductive Layout : Part → Type where
  /-- No lines. -/
  | nil : Layout .body
  /-- A line that neither opens nor closes a block, and what follows it. -/
  | plain (line : Statement false false) (rest : Layout .body) : Layout .body
  /-- A blank line and what follows it. -/
  | blank (line : BlankLine) (rest : Layout .body) : Layout .body
  /-- A block with its header, its first body and its tail, and what follows it. -/
  | block (header : Statement true false) (inner : Layout .body) (tail : Layout .tail)
      (rest : Layout .body) : Layout .body
  /-- The end of a block. -/
  | ending (line : Statement false true) : Layout .tail
  /-- A line that ends one body of a block and starts another. -/
  | continuation (line : Statement true true) (inner : Layout .body) (tail : Layout .tail) :
      Layout .tail

namespace Layout

/-- The lines of a layout at the given depth. Bodies stand one level deeper than the lines around
them, and blank lines are printed as they are. -/
def lines (config : IndentConfig) : (depth : Nat) → {part : Part} → Layout part → List PlacedLine
  | _, _, nil => []
  | depth, _, plain line rest => placedAt config depth line.text :: rest.lines config depth
  | depth, _, blank line rest => ⟨line.text, some depth⟩ :: rest.lines config depth
  | depth, _, block header inner tail rest =>
      placedAt config depth header.text ::
        (inner.lines config (depth + 1) ++ (tail.lines config depth ++ rest.lines config depth))
  | depth, _, ending line => [placedAt config depth line.text]
  | depth, _, continuation line inner tail =>
      placedAt config depth line.text ::
        (inner.lines config (depth + 1) ++ tail.lines config depth)

/-- The text of a layout at the given depth; the flag says that its last line ends with a line
feed. -/
def print (config : IndentConfig) (ended : Bool) (depth : Nat) (layout : Layout .body) :
    List Char :=
  ofBodies ended ((layout.lines config depth).map PlacedLine.body)

end Layout

end Script

/-! ## Single lines -/

namespace IndentState

/-- The depth of the next script line unless it closes a block. -/
def opened (state : IndentState) : Nat :=
  if state.pendingOpen then state.depth + 1 else state.depth

/-- Reading a line, by what it opens and closes. -/
theorem step_statement {opening closing : Bool} (line : Script.Statement opening closing)
    (state : IndentState) (inComment : Bool) :
    let depth := if closing then state.opened - 1 else state.opened
    state.step .script line.text inComment =
      ⟨{ state with depth := depth, pendingOpen := opening }, some depth⟩ := by
  simp only [step, stepScript, line.opens_eq, line.closes_eq, opened]

/-- Reading a blank line, which opens and closes nothing. -/
theorem step_blank_line (line : BlankLine) (state : IndentState) (inComment : Bool) :
    state.step .script line.text inComment =
      ⟨{ state with depth := state.opened, pendingOpen := false }, some state.opened⟩ := by
  have hblank := Script.code_of_blank line.unbroken line.blank
  simp only [step, stepScript, Script.opens_of_blank hblank, Script.closes_of_blank hblank, opened,
    Bool.false_eq_true, ↓reduceIte]

end IndentState

/-! ## Whole layouts -/

namespace Script.Layout

/-- The depth of the next line before the given part of a layout at the given depth. -/
def depthBefore (depth : Nat) : Part → Nat
  | .body => depth
  | .tail => depth + 1

/-- A line at the given depth, where it should stand if the next line is one level deeper before an
end or a continuation. -/
theorem prints_statement (config : IndentConfig) {opening closing : Bool}
    (line : Statement opening closing) {depth : Nat} {state : IndentState}
    (hstate : state.opened = depthBefore depth (if closing then .tail else .body)) :
    Prints config .script .outside state [placedAt config depth line.text] .outside
      { state with depth := depth, pendingOpen := opening } := by
  have hstep := state.step_statement line false
  have hdepth : (if closing then state.opened - 1 else state.opened) = depth := by
    cases closing <;> simp [hstate, depthBefore]
  rw [hdepth] at hstep
  exact .indented line.flush line.unbroken rfl hstep

/-- The machine finds every line of a layout at its nesting depth. Behind it the next line stands at
the depth of the layout, and no block is left open, if none was before. -/
theorem prints (config : IndentConfig) {part : Part} (layout : Layout part) (depth : Nat)
    (state : IndentState) (hstate : state.opened = depthBefore depth part) :
    ∃ final, Prints config .script .outside state (layout.lines config depth) .outside final ∧
      final.opened = depth ∧
      (part = .tail ∨ state.pendingOpen = false → final.pendingOpen = false) := by
  -- along the tree, with the depth one more inside a block
  induction layout generalizing depth state with
  | nil => exact ⟨state, .nil, hstate, by simp⟩
  | plain line rest ih =>
      have hline := prints_statement config line hstate
      obtain ⟨final, hrest, hopened, hpending⟩ := ih depth
        { state with depth := depth, pendingOpen := false } rfl
      exact ⟨final, hline.append hrest, hopened, fun _ => hpending (.inr rfl)⟩
  | blank line rest ih =>
      have hstep := state.step_blank_line line false
      rw [show state.opened = depth from hstate] at hstep
      have hline : Prints config .script .outside state [⟨line.text, some depth⟩] .outside
          { state with depth := depth, pendingOpen := false } :=
        .single (by simp [isFlagged, line.blank]) line.unbroken rfl hstep
      obtain ⟨final, hrest, hopened, hpending⟩ := ih depth
        { state with depth := depth, pendingOpen := false } rfl
      exact ⟨final, hline.append hrest, hopened, fun _ => hpending (.inr rfl)⟩
  | block header inner tail rest ihInner ihTail ihRest =>
      have hheader := prints_statement config header hstate
      obtain ⟨inside, hinner, hinside, -⟩ := ihInner (depth + 1)
        { state with depth := depth, pendingOpen := true } rfl
      obtain ⟨behind, htail, hbehind, hclosed⟩ := ihTail depth inside hinside
      obtain ⟨final, hrest, hopened, hpending⟩ := ihRest depth behind hbehind
      exact ⟨final, hheader.append (hinner.append (htail.append hrest)), hopened,
        fun _ => hpending (.inr (hclosed (.inl rfl)))⟩
  | ending line =>
      exact ⟨{ state with depth := depth, pendingOpen := false },
        prints_statement config line hstate, rfl, fun _ => rfl⟩
  | continuation line inner tail ihInner ihTail =>
      have hline := prints_statement config line hstate
      obtain ⟨inside, hinner, hinside, -⟩ := ihInner (depth + 1)
        { state with depth := depth, pendingOpen := true } rfl
      obtain ⟨final, htail, hopened, hpending⟩ := ihTail depth inside hinside
      exact ⟨final, hline.append (hinner.append htail), hopened, fun _ => hpending (.inl rfl)⟩

end Script.Layout

namespace Inspection

open Comment

/-- A script whose lines stand at their nesting depths is clean. Wherever it starts, the depth used
for each line is its nesting depth, nothing is flagged, and the depth after the last line is the one
before the first. As a file of its own it is found to be clean unless it is longer than any text can
be. -/
theorem script_layout_clean (config : IndentConfig) (layout : Script.Layout .body) (ended : Bool) :
    (∀ start : Nat,
      let lines := splitLines (layout.print config ended start)
      let steps := runStripped .script { depth := start } (stripLines .script .outside lines)
      steps.map IndentStep.checked = (layout.lines config start).map PlacedLine.place ∧
        (endState { depth := start } steps).depth = start ∧
        flaggedFrom config 0 (lines.zip steps) = []) ∧
      (misindented config .script
          (stripLines .script .outside (splitLines (layout.print config ended 0))) = .ok [] ∨
        maxLength < (layout.print config ended 0).length) := by
  constructor
  · intro start lines steps
    obtain ⟨final, hprints, hopened, hpending⟩ :=
      layout.prints config start { depth := start } rfl
    obtain ⟨hplaces, hend, hflagged, -⟩ := hprints.clean ended
    have hdepth : final.depth = start := by
      rwa [IndentState.opened, hpending (.inr rfl)] at hopened
    exact ⟨hplaces, (congrArg IndentState.depth hend).trans hdepth, hflagged⟩
  · obtain ⟨final, hprints, -, -⟩ := layout.prints config 0 {} rfl
    exact misindented_of_prints hprints ended

end Inspection

end ChannelLint
