import ChannelLint.Proofs.ElementLines

/-!
# Depth and open elements

The depth machine reads lines, and what it says of a text should be what `standing` says: how many
elements are open and whether a tag is unfinished. Outside tags it always is (`Line.step_tags`), and
likewise where the end of a tag comes first on a line (`step_tags_lone`). Where a tag ends further on,
the machine asks how the line ends and not how the tag does, and looks for no tag that starts behind
(`step_tags_end`); `ReadsTagEnd` says when this makes no difference. The main theorem,
`depths_describe_elements_iff`, is by induction on the lines: up to any place the depths are those of
the elements exactly if the machine reads the ends of tags in front of it.
-/

namespace ChannelLint

open Text Indentation

namespace Markup

open IndentState (startsWith shift)

/-- The state of the depth machine at a place with the given standing. -/
def Standing.state (standing : Standing) : IndentState :=
  { depth := standing.depth.toNat, inTag := standing.inTag }

/-- The machine is where the standing says: its depth is the one there, and it takes a tag to be
unfinished exactly if one is. -/
def Standing.Describes (standing : Standing) (state : IndentState) : Prop :=
  (state.depth : Int) = standing.depth ∧ state.inTag = standing.inTag

instance (standing : Standing) (state : IndentState) : Decidable (standing.Describes state) :=
  inferInstanceAs (Decidable (_ ∧ _))

/-- A standing describes its own state. -/
theorem Standing.describes_state {standing : Standing} (h : 0 ≤ standing.opened) :
    standing.Describes standing.state := by
  refine ⟨?_, rfl⟩
  cases htag : standing.inTag <;> simp only [state, depth, htag] <;> simp <;> omega

/-- A state that differs from the first one only in its depth and its unfinished tag is the one of any
standing that describes it. -/
theorem Standing.eq_state_of_describes {standing : Standing} {depth : Nat} {inTag : Bool}
    (h : standing.Describes { depth := depth, inTag := inTag }) :
    ({ depth := depth, inTag := inTag } : IndentState) = standing.state := by
  obtain ⟨hdepth, htag⟩ := h
  simp only [state, ← hdepth, ← htag, Int.toNat_natCast]

/-- The line ends with the end of a self-closing tag, apart from blanks. -/
def endsSelfClosing (line : List Char) : Bool :=
  ['>', '/'].isPrefixOf (trimEnd line).reverse

/-- Whether a line that starts in a tag is read as its tags say, where `after` is the standing behind
it. It is if the tag does not end on it or ends in front of all else. If the tag ends further on,
the machine takes it for self-closing if a self-closing tag ends the line, and sees no tag that starts
behind it and is unfinished. -/
def ReadsTagEnd (line : List Char) (after : Standing) : Bool :=
  !line.contains '>' || startsWith ['>'] line || startsWith ['/', '>'] line ||
    if (line.takeWhile (· != '>')).getLast? == some '/' then endsSelfClosing line
    else !after.inTag && (!endsSelfClosing line || after.opened == 0)

/-! ## One line -/

/-- Outside tags, the machine follows the open elements. -/
theorem Line.step_tags {pieces : List Piece} {body : List Char} {change opened : Int}
    {left : Option Left} (h : Line pieces body change left) (hopened : 0 ≤ opened)
    (hmatched : Matched opened pieces) :
    ((Standing.state ⟨opened, false⟩).stepTags body).next =
      Standing.state ⟨opened + change, endsInside left⟩ := by
  rw [IndentState.step_tags_outside _ rfl h.is_code.no_data_open]
  cases hlead : startsWith ['<', '/'] body with
  | false =>
      cases hends : endsInside left <;>
        simp [Standing.state, Standing.depth, h.balance_eq, h.ends_in_tag_eq, hends, shift] <;>
        omega
  | true =>
      obtain ⟨hpos, hfirst⟩ := h.leading hmatched hlead
      have hbalance := IndentState.balance_of_leading hfirst
      rw [h.balance_eq] at hbalance
      cases hends : endsInside left <;>
        simp [Standing.state, Standing.depth, h.ends_in_tag_eq, hends, shift] <;>
        omega

/-- An unfinished tag goes on over a line that has no part of another. -/
theorem step_tags_within {body : List Char} (h : NoAngles body) (opened : Int) :
    ((Standing.state ⟨opened, true⟩).stepTags body).next = Standing.state ⟨opened, true⟩ :=
  IndentState.step_tags_quiet _ ⟨h.not_mem_open, fun _ => h.not_mem_close⟩

/-- Blanks in front of the end of a tag are trimmed. -/
theorem trim_start_tag_end {selfClosing : Bool} {inner : List Char} (h : isBlankText inner = true)
    (rest : List Char) :
    trimStart (tagEnd selfClosing inner ++ rest) = tagEnd selfClosing [] ++ rest := by
  have hblank : ∀ c ∈ inner, isBlank c = true := List.all_eq_true.mp h
  have hsplit : tagEnd selfClosing inner ++ rest = inner ++ (tagEnd selfClosing [] ++ rest) := by
    simp [tagEnd]
  rw [trimStart, hsplit, List.dropWhile_append_of_pos hblank]
  cases selfClosing <;> rfl

/-- The end of a tag in front of a line is taken from the line; the tags behind it count. -/
theorem step_tags_lone {selfClosing : Bool} {inner rest : List Char} {opened : Int}
    (hopened : 0 ≤ opened) (h : isBlankText inner = true) (hdata : ¬ dataOpen <:+: rest) :
    ((Standing.state ⟨opened, true⟩).stepTags (tagEnd selfClosing inner ++ rest)).next =
      { depth := shift opened.toNat
          (opens selfClosing + balance rest + if endsInTag rest then 1 else 0)
        inTag := endsInTag rest } := by
  have hoccurs : occursIn dataOpen rest = false := by
    rwa [← occurs_in_iff, Bool.not_eq_true] at hdata
  have hdepth : (opened + 1).toNat - 1 = opened.toNat := by omega
  rw [IndentState.step_tags_eq]
  simp only [startsWith, trim_start_tag_end h]
  cases selfClosing <;> cases hends : endsInTag rest <;>
    simp [tagEnd, IndentState.readTags, Standing.state, Standing.depth, List.isPrefixOf, splitOnce,
      hoccurs, hends, opens, hdepth]

/-- An angle bracket is none of the other characters. -/
theorem angle_beq_eq_false {mark c : Char} (hmark : isAngle mark = true) (hc : isAngle c = false) :
    (mark == c) = false := by
  rw [beq_eq_false_iff_ne]
  rintro rfl
  cases hmark.symm.trans hc

/-- What ends a tag stands in front of a line only if nothing but blanks are in front of it. -/
theorem not_starts_with_end {selfClosing : Bool} {inner : List Char} (hangles : NoAngles inner)
    (hslash : Unslashed selfClosing inner) (h : isBlankText inner = false) (rest : List Char) :
    startsWith ['<', '/'] (tagEnd selfClosing inner ++ rest) = false ∧
      startsWith ['/', '>'] (tagEnd selfClosing inner ++ rest) = false ∧
      startsWith ['>'] (tagEnd selfClosing inner ++ rest) = false := by
  induction inner with
  | nil => cases h
  | cons c inner ih =>
      obtain ⟨hc, htail⟩ := List.forall_mem_cons.mp hangles
      have htext : tagEnd selfClosing (c :: inner) ++ rest =
          c :: (tagEnd selfClosing inner ++ rest) := rfl
      rw [htext]
      cases hblank : isBlank c with
      | true =>
          have hinner : isBlankText inner = false := by
            simpa [isBlankText, hblank] using h
          have hlast : Unslashed selfClosing ([c] ++ inner) := hslash
          have hskip : ∀ mark, startsWith mark (c :: (tagEnd selfClosing inner ++ rest)) =
              startsWith mark (tagEnd selfClosing inner ++ rest) := by
            intro mark
            simp [startsWith, trimStart, hblank]
          simpa only [hskip] using ih htail hlast.of_append hinner
      | false =>
          have hopen := angle_beq_eq_false (rfl : isAngle '<' = true) hc
          have hclose := angle_beq_eq_false (rfl : isAngle '>' = true) hc
          simp only [IndentState.starts_with_cons hblank, hopen, hclose, Bool.false_and, true_and,
            and_true]
          rw [Bool.and_eq_false_imp, beq_iff_eq]
          rintro rfl
          -- a slash is followed by the end of the tag only in a self-closing tag, which has its own
          cases inner with
          | cons d inner =>
              have hd := angle_beq_eq_false (rfl : isAngle '>' = true) (htail d List.mem_cons_self)
              simp [tagEnd, List.isPrefixOf, hd]
          | nil =>
              cases selfClosing with
              | true => rfl
              | false => exact absurd rfl (hslash rfl)

/-- A line that ends with the end of a self-closing tag does not end in a tag. -/
theorem not_in_tag_of_self_closing {body : List Char} (h : endsSelfClosing body = true) :
    endsInTag body = false := by
  obtain ⟨marks, hmarks⟩ := List.isPrefixOf_iff_prefix.mp h
  have htrim : trimEnd body = marks.reverse ++ ['/', '>'] := by
    rw [← List.reverse_reverse (trimEnd body), ← hmarks]
    simp
  have hbody : body = trimEnd body ++ (body.reverse.takeWhile isBlank).reverse := by
    rw [trimEnd, dropEndWhile, ← List.reverse_append, List.takeWhile_append_dropWhile,
      List.reverse_reverse]
  have hopen : '<' ∉ (body.reverse.takeWhile isBlank).reverse := by
    rw [List.mem_reverse]
    intro hmem
    cases List.mem_takeWhile_imp hmem
  have hends := ends_in_tag_append (marks.reverse ++ ['/'])
    (body.reverse.takeWhile isBlank).reverse
  rw [ends_in_tag_of_no_open hopen] at hends
  rw [hbody, htrim]
  simpa using hends

/-- Where a tag ends further on in a line, the machine sees it end and the tags behind it, but takes
off a level exactly if the line ends with the end of a self-closing tag. -/
theorem step_tags_end {selfClosing : Bool} {inner : List Char} (hangles : NoAngles inner)
    (hslash : Unslashed selfClosing inner) (h : isBlankText inner = false) {pieces : List Piece}
    {body : List Char} {change : Int} {later : Option Left} (hline : Line pieces body change later)
    (opened : Int) :
    ((Standing.state ⟨opened, true⟩).stepTags (tagEnd selfClosing inner ++ body)).next =
      { depth := shift (opened + 1).toNat
          (if endsSelfClosing (tagEnd selfClosing inner ++ body) then change - 1 else change)
        inTag := false } := by
  obtain ⟨hclose, hself, hangle⟩ := not_starts_with_end hangles hslash h body
  have hopen := not_open_tag_end hangles selfClosing
  have hbalance : balance (tagEnd selfClosing inner ++ body) = change := by
    rw [balance, tags_append hopen]
    exact hline.balance_eq
  have hcontains : (tagEnd selfClosing inner ++ body).contains '>' = true := by
    simp [tagEnd]
  rw [IndentState.step_tags_inside _ rfl (hline.is_code.behind hopen).no_data_open hclose hself
    hangle, hbalance, hcontains]
  simp [Standing.state, Standing.depth, endsSelfClosing]

/-- Whether a slash stands in front of the end of the tag says whether the tag is self-closing. -/
theorem last_of_tag_end {selfClosing : Bool} {inner : List Char} (hangles : NoAngles inner)
    (hslash : Unslashed selfClosing inner) (rest : List Char) :
    (((tagEnd selfClosing inner ++ rest).takeWhile (· != '>')).getLast? == some '/') =
      selfClosing := by
  have hall : ∀ c ∈ inner ++ (if selfClosing then ['/'] else []), (c != '>') = true := by
    intro c hc
    rcases List.mem_append.mp hc with hc | hc
    · have hne : c ≠ '>' := fun heq => hangles.not_mem_close (heq ▸ hc)
      simpa using hne
    · cases selfClosing <;> simp_all
  have htake : (tagEnd selfClosing inner ++ rest).takeWhile (· != '>') =
      inner ++ if selfClosing then ['/'] else [] := by
    rw [tagEnd, List.append_assoc, List.takeWhile_append_of_pos hall]
    simp
  rw [htake, last_of_unslashed hslash]

/-- The machine reads the end of a tag in front of a line as it is. -/
theorem reads_lone_end {inner : List Char} (h : isBlankText inner = true) (selfClosing : Bool)
    (rest : List Char) (after : Standing) :
    ReadsTagEnd (tagEnd selfClosing inner ++ rest) after = true := by
  have hmark : (startsWith ['>'] (tagEnd selfClosing inner ++ rest) ||
      startsWith ['/', '>'] (tagEnd selfClosing inner ++ rest)) = true := by
    rw [startsWith, startsWith, trim_start_tag_end h]
    cases selfClosing <;> rfl
  rw [ReadsTagEnd, Bool.or_assoc (!_), hmark, Bool.or_true, Bool.true_or]

/-- Whether the machine reads the end of a tag further on in a line as it is. -/
theorem reads_tag_end_eq {selfClosing : Bool} {inner : List Char} (hangles : NoAngles inner)
    (hslash : Unslashed selfClosing inner) (h : isBlankText inner = false) (rest : List Char)
    (after : Standing) :
    ReadsTagEnd (tagEnd selfClosing inner ++ rest) after =
      if selfClosing then endsSelfClosing (tagEnd selfClosing inner ++ rest)
      else !after.inTag &&
        (!endsSelfClosing (tagEnd selfClosing inner ++ rest) || after.opened == 0) := by
  obtain ⟨-, hself, hangle⟩ := not_starts_with_end hangles hslash h rest
  have hcontains : (tagEnd selfClosing inner ++ rest).contains '>' = true := by
    simp [tagEnd]
  rw [ReadsTagEnd, hself, hangle, hcontains, last_of_tag_end hangles hslash]
  rfl

/-- When the depth behind the end of a tag is the one there: `self` says that the line ends with the end
of a self-closing tag, `inTag` that it ends in a tag. A level too many that is taken off goes unseen
where no element is left open. -/
theorem describes_tag_end_iff {selfClosing self inTag : Bool} {opened change : Int}
    (hopened : 0 ≤ opened) (hafter : 0 ≤ opened + (opens selfClosing + change))
    (hends : self = true → inTag = false) :
    Standing.Describes ⟨opened + (opens selfClosing + change), inTag⟩
        { depth := shift (opened + 1).toNat (if self then change - 1 else change), inTag := false } ↔
      (if selfClosing then self
        else !inTag && (!self || opened + (opens selfClosing + change) == 0)) = true := by
  simp only [Standing.Describes, Standing.depth, shift]
  cases selfClosing <;> cases self <;> cases inTag <;> simp_all [opens] <;> omega

namespace Left.Line

variable {left : Left} {body : List Char} {change opened : Int} {later : Option Left}
  (h : left.Line body change later) (hopened : 0 ≤ opened) (hmatched : left.Matched opened)
include h hopened hmatched

/-- A line leads the machine to the standing behind it exactly if the machine reads the end of a tag
that the line starts in. -/
theorem step_tags :
    let next := ((Standing.state ⟨opened, left.isInside⟩).stepTags body).next
    let after : Standing := ⟨opened + change, endsInside later⟩
    (after.Describes next ↔ (left.isInside = true → ReadsTagEnd body after = true)) ∧
      (after.Describes next → next = after.state) := by
  intro next after
  have hafter : 0 ≤ after.opened := (h.matched hopened hmatched).1
  have hexact : next = after.state → (left.isInside = true → ReadsTagEnd body after = true) →
      (after.Describes next ↔ (left.isInside = true → ReadsTagEnd body after = true)) ∧
        (after.Describes next → next = after.state) :=
    fun hnext hreads =>
      ⟨iff_of_true (hnext ▸ Standing.describes_state hafter) hreads, fun _ => hnext⟩
  cases h with
  | outside hline => exact hexact (hline.step_tags hopened hmatched) (fun hinside => by cases hinside)
  | @within _ _ _ _ hangles _ _ _ _ =>
      have hbody := hangles.of_append.1
      refine hexact ?_ fun _ => ?_
      · have hnext := step_tags_within hbody opened
        simpa only [next, after, endsInside, isInside, Option.any_some, Int.add_zero] using hnext
      · simp [ReadsTagEnd, hbody.not_mem_close]
  | @ends selfClosing inner _ hangles hslash rest change _ hinner hline =>
      cases hblank : isBlankText inner with
      | true =>
          refine hexact ?_ fun _ => reads_lone_end hblank selfClosing rest after
          have hnext : next = _ := step_tags_lone hopened hblank hline.is_code.no_data_open
          rw [hline.balance_eq, hline.ends_in_tag_eq] at hnext
          refine hnext.trans ?_
          simp only [after, Standing.state, Standing.depth, shift, Int.toNat_of_nonneg hopened,
            Int.add_assoc]
      | false =>
          have hnext : next = _ := step_tags_end hangles hslash hblank hline opened
          have hopen := not_open_tag_end hangles selfClosing
          have hends : endsSelfClosing (tagEnd selfClosing inner ++ rest) = true →
              endsInside later = false := by
            intro hself
            rw [← hline.ends_in_tag_eq, ← ends_in_tag_behind hopen rest]
            exact not_in_tag_of_self_closing hself
          rw [reads_tag_end_eq hangles hslash hblank, hnext]
          refine ⟨?_, Standing.eq_state_of_describes⟩
          simpa only [isInside, forall_const] using describes_tag_end_iff hopened hafter hends

end Left.Line

/-! ## All lines -/

/-- How a line ends makes no difference to whether the end of a tag on it is read. -/
theorem reads_tag_end_append_breaks {breaks : List Char} (h : IsBreaks breaks) (line : List Char)
    (after : Standing) : ReadsTagEnd (line ++ breaks) after = ReadsTagEnd line after := by
  have hmem : '>' ∈ line ++ breaks ↔ '>' ∈ line :=
    mem_append_breaks h (by decide) (by decide) line
  have hcontains : (line ++ breaks).contains '>' = line.contains '>' := by
    rw [Bool.eq_iff_iff, List.contains_iff_mem, List.contains_iff_mem, hmem]
  have hangle := IndentState.starts_with_append_breaks h (by decide : '\r' ∉ ['>'] ∧ '\n' ∉ ['>'])
    line
  have hself := IndentState.starts_with_append_breaks h
    (by decide : '\r' ∉ ['/', '>'] ∧ '\n' ∉ ['/', '>']) line
  rw [ReadsTagEnd, ReadsTagEnd, hcontains, hangle, hself, endsSelfClosing, endsSelfClosing,
    trim_end_append_breaks h]
  cases hclose : line.contains '>' with
  | false => rfl
  | true =>
      obtain ⟨before, rest, rfl, hbefore⟩ :=
        List.eq_append_cons_of_mem (List.contains_iff_mem.mp hclose)
      have hall : ∀ c ∈ before, (c != '>') = true := by
        intro c hc
        have hne : c ≠ '>' := fun heq => hbefore (heq ▸ hc)
        simpa using hne
      simp [List.takeWhile_append_of_pos hall]

namespace Left

/-- What is left behind a line, which is nothing if the text ends with it. -/
def behind (later : Option Left) : Left :=
  later.getD (outside [])

/-- What is left behind a line that ends in a tag starts in the tag. -/
theorem is_inside_behind (later : Option Left) : (behind later).isInside = endsInside later := by
  cases later <;> rfl

namespace Line

variable {left : Left} {body : List Char} {change opened : Int} {later : Option Left}
  (h : left.Line body change later)
include h

/-- A text has no lines, or its lines are its first one and those of what is left behind it. -/
theorem split_lines :
    splitLines left.chars = [] ∨
      ∃ line, Ends line body ∧
        splitLines left.chars = line :: splitLines (behind later).chars ∧
        ∀ count, left.standing (line.length + count) =
          ((behind later).standing count).add change := by
  rw [h.chars_eq]
  cases later with
  | some next =>
      refine .inr ⟨body ++ ['\n'], ⟨h.unbroken, _, .inr rfl, rfl⟩, split_lines_cons _ h.unbroken, ?_⟩
      intro count
      rw [List.length_append]
      exact h.standing_behind rfl count
  | none =>
      rw [tailChars, List.append_nil]
      by_cases hempty : body = []
      · exact .inl (hempty ▸ rfl)
      · refine .inr ⟨body, ⟨h.unbroken, [], .inl rfl, (List.append_nil body).symm⟩,
          split_lines_last h.unbroken hempty, fun count => ?_⟩
        rw [h.standing_end rfl]
        simp [behind, standing, Markup.standing, Standing.add]

/-- There is an open element for every end tag behind the line. -/
theorem matched_behind (hopened : 0 ≤ opened) (hmatched : left.Matched opened) :
    (behind later).Matched (opened + change) := by
  cases later with
  | none => exact trivial
  | some next => exact (h.matched hopened hmatched).2 next rfl

/-- A line leaves the comment state as it is. -/
theorem strip_state {line : List Char} (hends : Ends line body) :
    (Comment.strip .markup .outside line).1 = .outside := by
  rw [Comment.strip_state_of_ends hends]
  exact Comment.strip_state_of_code h.is_code h.unbroken

/-- The machine reads the line and then what is left behind it. -/
theorem run_cons {line : List Char} (hends : Ends line body) (rest : List (List Char))
    (state : IndentState) :
    run .markup state ((Comment.stripLines .markup .outside (line :: rest)).map fun line =>
        (line.raw, line.after == .inside)) =
      state.step .markup line false ::
        run .markup (state.step .markup line false).next
          ((Comment.stripLines .markup .outside rest).map fun line =>
            (line.raw, line.after == .inside)) := by
  simp only [Comment.stripLines, h.strip_state hends, List.map_cons, run]
  rfl

/-- Reading a line, the machine gets to the standing behind it exactly if it reads the end of a tag
that the line starts in. -/
theorem step_line {line : List Char} (hends : Ends line body) (hopened : 0 ≤ opened)
    (hmatched : left.Matched opened) :
    let next := ((Standing.state ⟨opened, left.isInside⟩).step .markup line false).next
    let after : Standing := ⟨opened + change, endsInside later⟩
    (after.Describes next ↔ (left.isInside = true → ReadsTagEnd line after = true)) ∧
      (after.Describes next → next = after.state) := by
  have hstep : (Standing.state ⟨opened, left.isInside⟩).step .markup line false =
      (Standing.state ⟨opened, left.isInside⟩).stepTags body := by
    rw [IndentState.step_of_ends hends, IndentState.step_code _ h.is_code rfl rfl]
    exact apply_drop_breaks (fun text _ hbreaks => IndentState.step_tags_append_breaks hbreaks _ text)
      body
  have hreads : ∀ after, ReadsTagEnd line after = ReadsTagEnd body after := by
    intro after
    obtain ⟨-, terminator, hterminator, rfl⟩ := hends
    refine reads_tag_end_append_breaks ?_ body after
    rcases hterminator with rfl | rfl <;> simp [IsBreaks]
  simpa only [hstep, hreads] using h.step_tags hopened hmatched

end Line

end Left

end Markup

namespace Inspection

open Comment Indentation Markup

/-- From a place on, the machine follows the standings exactly as long as it reads the ends of the tags
that lines start in. -/
theorem run_describes_iff (count : Nat) {left : Left} {opened : Int} (hopened : 0 ≤ opened)
    (hmatched : left.Matched opened) :
    let lines := splitLines left.chars
    let steps := run .markup (Standing.state ⟨opened, left.isInside⟩)
      ((stripLines .markup .outside lines).map fun line => (line.raw, line.after == .inside))
    let after := fun index => (left.standing (offset lines index)).add opened
    (∀ index < count, ∀ step ∈ steps[index]?, (after (index + 1)).Describes step.next) ↔
      ∀ index < count, ∀ line ∈ lines[index]?, (after index).inTag = true →
        ReadsTagEnd line (after (index + 1)) = true := by
  induction count generalizing left opened with
  | zero => simp
  | succ count ih =>
      intro lines steps after
      obtain ⟨body, change, later, hline⟩ := left.exists_line
      rcases hline.split_lines with hnil | ⟨line, hends, hlines, hstanding⟩
      · simp [steps, lines, hnil, stripLines, run]
      · let step := (Standing.state ⟨opened, left.isInside⟩).step .markup line false
        obtain ⟨hfirst, hnext⟩ := hline.step_line hends hopened hmatched
        have hrest := ih (hline.matched hopened hmatched).1 (hline.matched_behind hopened hmatched)
        have hafter : ∀ index, after (index + 1) = (((Left.behind later).standing
            (offset (splitLines (Left.behind later).chars) index)).add (opened + change)) := by
          intro index
          simp only [after, lines, hlines, offset_cons_succ, hstanding, Standing.add_add]
        have hstart : after 0 = ⟨opened, left.isInside⟩ := by
          simp only [after, offset_zero, left.standing_start]
        have hone : after 1 = ⟨opened + change, endsInside later⟩ := by
          rw [hafter 0, offset_zero, Left.standing_start, Left.is_inside_behind]
        have hsteps : steps = step :: run .markup step.next
            ((stripLines .markup .outside (splitLines (Left.behind later).chars)).map
              fun line => (line.raw, line.after == .inside)) := by
          simp only [steps, lines, hlines]
          exact hline.run_cons hends _ _
        have hhead : (∀ first ∈ steps[0]?, (after (0 + 1)).Describes first.next) ↔
            ∀ first ∈ lines[0]?, (after 0).inTag = true →
              ReadsTagEnd first (after (0 + 1)) = true := by
          simpa [hsteps, lines, hlines, hstart, hone] using hfirst
        rw [Nat.forall_lt_succ_left, Nat.forall_lt_succ_left, hhead]
        refine and_congr_right fun hread => ?_
        -- behind a line that is read as it is, the machine starts from the standing there
        have hstate : step.next =
            Standing.state ⟨opened + change, (Left.behind later).isInside⟩ := by
          rw [Left.is_inside_behind]
          refine hnext ?_
          rw [← hone]
          exact hhead.mpr hread step (by rw [hsteps]; rfl)
        rw [hsteps, hstate]
        simpa only [lines, hlines, List.getElem?_cons_succ, hafter] using hrest

/-- On elements with their text, broken into lines anywhere but in an end tag, the depth after every
line up to some place is the number of elements open there, plus one in an unfinished tag, and the
machine knows of the unfinished tag, exactly if it reads the end of a tag on each of these lines that
starts in one. -/
theorem depths_describe_elements_iff {pieces : List Piece} (hmatched : Matched 0 pieces)
    (count : Nat) :
    let lines := splitLines (print pieces)
    let steps := indentSteps .markup (stripLines .markup .outside lines)
    let after := fun index => standing pieces (offset lines index)
    (∀ index < count, ∀ step ∈ steps[index]?, (after (index + 1)).Describes step.next) ↔
      ∀ index < count, ∀ line ∈ lines[index]?, (after index).inTag = true →
        ReadsTagEnd line (after (index + 1)) = true := by
  have hleft : (Left.outside pieces).Matched 0 := hmatched
  have hrun := run_describes_iff count (Int.le_refl 0) hleft
  simp only [Standing.add_zero] at hrun
  exact hrun

/-- Two start tags and a self-closing tag that are broken into lines, with the ends of tags in front of
a line, at its end and in front of text. -/
theorem depths_describe_broken_tags :
    let pieces : List Piece :=
      [.opening false ⟨'a', "\n x=\"1\"\n".toList, by decide, by decide +kernel⟩ (by decide +kernel),
        .text "t".toList (by decide +kernel),
        .opening true ⟨'b', "\n y=\"2\"".toList, by decide, by decide +kernel⟩ (by decide +kernel),
        .text "\n".toList (by decide +kernel),
        .opening false ⟨'c', "\n z=\"3\"".toList, by decide, by decide +kernel⟩ (by decide +kernel),
        .text "u".toList (by decide +kernel), .closing ⟨'c', [], by decide, by decide⟩ (by decide),
        .text "\n".toList (by decide +kernel), .closing ⟨'a', [], by decide, by decide⟩ (by decide)]
    let lines := splitLines (print pieces)
    let steps := indentSteps .markup (stripLines .markup .outside lines)
    let after := fun index => standing pieces (offset lines index)
    print pieces = "<a\n x=\"1\"\n>t<b\n y=\"2\"/>\n<c\n z=\"3\">u</c>\n</a>".toList ∧
      Matched 0 pieces ∧ steps.map (·.next.depth) = [1, 1, 2, 1, 2, 1, 0] ∧
      ∀ index < 7, ∀ step ∈ steps[index]?, (after (index + 1)).Describes step.next := by
  intro pieces lines steps after
  have hmatched : Matched 0 pieces := by decide +kernel
  have hread : ∀ index < 7, ∀ line ∈ lines[index]?, (after index).inTag = true →
      ReadsTagEnd line (after (index + 1)) = true := by decide +kernel
  exact ⟨by decide +kernel, hmatched, by decide +kernel,
    (depths_describe_elements_iff hmatched 7).mpr hread⟩

/-- Where a start tag ends in front of a self-closing tag that ends the line, the level of the first is
lost, and with it that of the lines behind it. -/
theorem level_lost_behind_tag_end :
    let pieces : List Piece :=
      [.opening false ⟨'a', "\n    x=\"1\"".toList, by decide, by decide +kernel⟩ (by decide +kernel),
        .opening true ⟨'b', [], by decide, by decide⟩ (by decide),
        .text "\n    ".toList (by decide +kernel),
        .opening true ⟨'c', [], by decide, by decide⟩ (by decide),
        .text "\n".toList (by decide +kernel), .closing ⟨'a', [], by decide, by decide⟩ (by decide),
        .text "\n".toList (by decide +kernel)]
    let lines := splitLines (print pieces)
    print pieces = "<a\n    x=\"1\"><b/>\n    <c/>\n</a>\n".toList ∧ Matched 0 pieces ∧
      (indentSteps .markup (stripLines .markup .outside lines)).map (·.next.depth) =
        [1, 0, 0, 0] ∧
      (List.range 4).map (fun index => (standing pieces (offset lines (index + 1))).depth) =
        [1, 1, 1, 0] := by
  decide +kernel

end Inspection

end ChannelLint
