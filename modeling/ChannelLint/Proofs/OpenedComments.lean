import ChannelLint.Proofs.CommentTails
import Mathlib.Data.List.Infix

/-!
# Lines that open a comment

When a line starts outside comments and ends inside one, its last opening mark should have no closing
mark behind it, which is `LeavesOpen`. A line is stripped in two steps, though: comments that close
on the line are taken out, and then an opening mark is looked for in what is left. `Joins` says that
such a mark stands in the text outside comments, where only the parts around a comment can make one
up. `strip_markup_inside_iff` says that a line opens a comment exactly if reading it in one pass ends
inside one or if it joins a mark, and the main theorem, `strip_markup_leaves_open`, what this means
for the marks of the line. That a joined mark opens a comment is shown by `joined_mark_opens`.
-/

namespace ChannelLint.Comment

open Text

/-- No closing mark begins behind the end of the last opening mark, and there is one. -/
def LeavesOpen (line : List Char) : Prop :=
  ∃ before after, line = before ++ openMark ++ after ∧
    ¬ openMark <:+: after ∧ ¬ closeMark <:+: after

/-- The text outside the comments of a line, put together, holds an opening mark. -/
def Joins (line : List Char) : Prop :=
  openMark <:+: (scanMarkup .outside line).2

/-- A text leaves its last opening mark open if one of its tails starts with that mark. -/
theorem leaves_open_iff {line : List Char} :
    LeavesOpen line ↔ ∃ tail ∈ line.tails, openMark <+: tail ∧
      ¬ openMark <:+: tail.drop openMark.length ∧ ¬ closeMark <:+: tail.drop openMark.length := by
  constructor
  · rintro ⟨before, after, rfl, hopen, hclose⟩
    refine ⟨openMark ++ after, ?_, List.prefix_append _ _, ?_⟩
    · exact (List.mem_tails _ _).mpr ⟨before, by rw [List.append_assoc]⟩
    · rw [List.drop_left]
      exact ⟨hopen, hclose⟩
  · rintro ⟨tail, htail, ⟨after, rfl⟩, hmarks⟩
    obtain ⟨before, rfl⟩ := (List.mem_tails _ _).mp htail
    rw [List.drop_left] at hmarks
    exact ⟨before, after, by rw [List.append_assoc], hmarks⟩

instance (line : List Char) : Decidable (LeavesOpen line) :=
  decidable_of_iff _ leaves_open_iff.symm

instance (line : List Char) : Decidable (Joins line) :=
  inferInstanceAs (Decidable (_ <:+: _))

/-! ## Reading in one pass -/

/-- More text in front of a line leaves its last mark open. -/
theorem LeavesOpen.append {line : List Char} (h : LeavesOpen line) (lead : List Char) :
    LeavesOpen (lead ++ line) := by
  obtain ⟨before, after, rfl, hopen, hclose⟩ := h
  exact ⟨lead ++ before, after, by simp, hopen, hclose⟩

/-- A text without marks behind an opening mark leaves that mark open. -/
theorem leaves_open_of_unmarked {rest : List Char} (hopen : ¬ openMark <:+: rest)
    (hclose : ¬ closeMark <:+: rest) : LeavesOpen (openMark ++ rest) :=
  ⟨[], rest, rfl, hopen, hclose⟩

/-- A text whose reading ends inside a comment leaves its last opening mark open, unless it was
inside the comment from the start and has no mark at all. -/
theorem leaves_open_of_scan {state : CommentState} {text : List Char}
    (h : (scanMarkup state text).1 = .inside) :
    LeavesOpen text ∨ state = .inside ∧ ¬ openMark <:+: text ∧ ¬ closeMark <:+: text := by
  fun_induction scanMarkup state text with
  | case1 state => exact .inr ⟨h, by decide, by decide⟩
  | case2 rest ih =>
      rcases ih h with hrest | ⟨-, hopen, hclose⟩
      · exact .inl (hrest.append openMark)
      · exact .inl (leaves_open_of_unmarked hopen hclose)
  | case3 c rest hopen last kept hscan ih =>
      have hrest : LeavesOpen rest := (ih (by rw [hscan]; exact h)).resolve_right (by simp)
      exact .inl (hrest.append [c])
  | case4 rest ih =>
      have hrest : LeavesOpen rest := (ih h).resolve_right (by simp)
      exact .inl (hrest.append closeMark)
  | case5 c rest hclose last kept hscan ih =>
      rcases ih (by rw [hscan]; exact h) with hrest | ⟨-, hopens, hcloses⟩
      · exact .inl (hrest.append [c])
      · -- a mark can only stand at the front: a closing one does not, an opening one is the last
        by_cases hstart : openMark <+: c :: rest
        · obtain ⟨rfl, after, rfl⟩ := open_mark_initial_iff.mp hstart
          have hpart : after <:+: '!' :: '-' :: '-' :: after := ⟨['!', '-', '-'], [], by simp⟩
          exact .inl (leaves_open_of_unmarked (fun hmark => hopens (hmark.trans hpart))
            fun hmark => hcloses (hmark.trans hpart))
        · simp only [List.infix_cons_iff, not_or]
          exact .inr ⟨trivial, ⟨hstart, hopens⟩, not_close_mark_initial hclose, hcloses⟩

/-! ## Stripping -/

/-- What is left of a line without its closed comments is the text outside comments and, if reading
the line ends inside a comment, the mark that opens it with the rest of the line. -/
theorem drop_inline_cases {inComment : Bool} {body : List Char} (hbody : '\n' ∉ body)
    (hcloses : inComment = true → closesInLine body = true) :
    let (last, kept) := scanMarkup (if inComment then .inside else .outside) body
    last = .outside ∧ dropInline inComment body = kept ∨
      last = .inside ∧ ∃ rest, dropInline inComment body = kept ++ openMark ++ rest := by
  fun_induction dropInline inComment body with
  | case1 inComment =>
      cases inComment with
      | false => exact .inl ⟨rfl, rfl⟩
      | true => cases hcloses rfl
  | case2 after ih => exact ih (by simp_all) (by simp)
  | case3 c rest hclose ih =>
      have hc : c ≠ '\n' := (List.ne_of_not_mem_cons hbody).symm
      have hclose : ¬ closeMark <+: c :: rest := not_close_mark_initial hclose
      have hrest : closesInLine rest = true := by
        rw [closes_in_line_cons hclose] at hcloses
        exact (Bool.and_eq_true_iff.mp (hcloses rfl)).2
      have hkept := ih (List.not_mem_of_not_mem_cons hbody) fun _ => hrest
      simpa [scan_markup_drop hclose, hc] using hkept
  | case4 after hends ih => exact ih (by simp_all) fun _ => hends
  | case5 after hends ih =>
      have hafter : '\n' ∉ after := by simp_all
      have hunclosed : splitOnce closeMark after = none := by
        rw [closes_in_line_eq hafter] at hends
        simpa using hends
      have hscan := scan_markup_unclosed hafter hunclosed
      exact .inr ⟨congrArg Prod.fst hscan, dropInline false after, by
        simp [scanMarkup, hscan, openMark]⟩
  | case6 c rest hopen ih =>
      have hkept := ih (List.not_mem_of_not_mem_cons hbody) (by simp)
      simpa [scan_markup_keep (not_open_mark_initial hopen)] using hkept

/-- A line is cut exactly if there is an opening mark. -/
theorem cut_open_inside_iff (kept : List Char) :
    (cutOpen kept).1 = .inside ↔ openMark <:+: kept := by
  rw [← occurs_in_iff, occursIn, cutOpen]
  cases splitOnce openMark kept <;> simp

/-- A mark without line feeds stands on one side of a line feed. -/
theorem infix_of_append_feed {mark body rest : List Char} (hmark : '\n' ∉ mark)
    (h : mark <:+: body ++ '\n' :: rest) : mark <:+: body ∨ mark <:+: rest := by
  induction body with
  | nil =>
      rcases List.infix_cons_iff.mp h with hstart | hrest
      · exact .inl (mark_initial_of_append hmark hstart).isInfix
      · exact .inr hrest
  | cons c body ih =>
      rcases List.infix_cons_iff.mp h with hstart | hrest
      · exact .inl (mark_initial_of_append hmark hstart).isInfix
      · exact (ih hrest).imp_left fun hpart => hpart.trans (List.suffix_cons c body).isInfix

/-- The end of a line is no part of a mark without line feeds. -/
theorem infix_append_terminator {mark body terminator : List Char} (hmark : '\n' ∉ mark)
    (hterminator : IsTerminator terminator) : mark <:+: body ++ terminator ↔ mark <:+: body := by
  refine ⟨fun h => ?_, fun h => h.trans (List.prefix_append _ _).isInfix⟩
  rcases hterminator with rfl | rfl
  · rwa [List.append_nil] at h
  · rcases infix_of_append_feed hmark h with hbody | hnil
    · exact hbody
    · rw [List.eq_nil_of_infix_nil hnil]
      exact List.nil_infix

/-- The end of a line is kept and changes no state. -/
theorem scan_markup_terminator {body terminator : List Char} (state : CommentState)
    (hbody : '\n' ∉ body) (hterminator : IsTerminator terminator) :
    scanMarkup state (body ++ terminator) =
      ((scanMarkup state body).1, (scanMarkup state body).2 ++ terminator) := by
  rcases hterminator with rfl | rfl
  · rw [List.append_nil, List.append_nil]
  · rw [scan_markup_append state [] hbody]
    cases (scanMarkup state body).1 <;> rfl

/-- A line that starts outside comments ends inside one exactly if reading it in one pass does, or if
the text outside its comments joins to an opening mark. -/
theorem strip_markup_inside_iff {body terminator : List Char} (hbody : '\n' ∉ body)
    (hterminator : IsTerminator terminator) :
    (stripMarkup .outside (body ++ terminator)).1 = .inside ↔
      (scanMarkup .outside (body ++ terminator)).1 = .inside ∨ Joins (body ++ terminator) := by
  have hstrip : (stripMarkup .outside (body ++ terminator)).1 = .inside ↔
      openMark <:+: dropInline false body := by
    simp only [stripMarkup, split_terminator_append hbody hterminator, strip_markup_outside_eq]
    exact cut_open_inside_iff _
  rw [hstrip, Joins, scan_markup_terminator .outside hbody hterminator,
    infix_append_terminator (by decide) hterminator]
  have hcases := @drop_inline_cases false body hbody (by simp)
  simp only [Bool.false_eq_true, if_false] at hcases
  rcases hcases with ⟨hlast, heq⟩ | ⟨hlast, rest, heq⟩
  · simp [heq, hlast]
  · rw [heq]
    exact iff_of_true ⟨_, rest, rfl⟩ (.inl hlast)

/-- A line without line feeds but at its end is a body and an end. -/
theorem exists_body {line : List Char} (h : '\n' ∉ line.dropLast) :
    ∃ body terminator, '\n' ∉ body ∧ IsTerminator terminator ∧ line = body ++ terminator := by
  by_cases hline : '\n' ∈ line
  · have hne : line ≠ [] := List.ne_nil_of_mem hline
    have hlast : line.getLast hne = '\n' := by
      rw [← List.dropLast_append_getLast hne, List.mem_append] at hline
      exact (List.mem_singleton.mp (hline.resolve_left h)).symm
    refine ⟨line.dropLast, ['\n'], h, .inr rfl, ?_⟩
    rw [← hlast, List.dropLast_append_getLast hne]
  · exact ⟨line, [], hline, .inl rfl, (List.append_nil line).symm⟩

/-- A line that starts outside comments and ends inside one leaves its last opening mark open, unless
the text outside its comments joins to an opening mark; a line that joins one always ends inside a
comment. -/
theorem strip_markup_leaves_open {line : List Char} (hline : '\n' ∉ line.dropLast) :
    ((stripMarkup .outside line).1 = .inside → LeavesOpen line ∨ Joins line) ∧
      (Joins line → (stripMarkup .outside line).1 = .inside) := by
  obtain ⟨body, terminator, hbody, hterminator, rfl⟩ := exists_body hline
  rw [strip_markup_inside_iff hbody hterminator]
  refine ⟨fun hinside => hinside.imp_left fun hscan => ?_, .inr⟩
  exact (leaves_open_of_scan hscan).resolve_right (by simp)

/-- A line with a comment, and behind it an opening mark whose dashes are not those of a closing
one. -/
theorem strip_markup_leaves_open_twice :
    '\n' ∉ "<a/> <!-- b --> <!-->\n".toList.dropLast ∧
      LeavesOpen "<a/> <!-- b --> <!-->\n".toList := by
  have hline : '\n' ∉ "<a/> <!-- b --> <!-->\n".toList.dropLast := by decide +kernel
  have hinside : (stripMarkup .outside "<a/> <!-- b --> <!-->\n".toList).1 = .inside := by
    decide +kernel
  have hjoins : ¬ Joins "<a/> <!-- b --> <!-->\n".toList := by decide +kernel
  exact ⟨hline, ((strip_markup_leaves_open hline).1 hinside).resolve_right hjoins⟩

/-- The only comment of the line is closed, and without it the characters beside it make up an
opening mark, so that the next line is taken to be inside a comment. -/
theorem joined_mark_opens :
    '\n' ∉ "<<!-- a -->!-- b\n".toList.dropLast ∧
      (stripMarkup .outside "<<!-- a -->!-- b\n".toList).1 = .inside ∧
      ¬ LeavesOpen "<<!-- a -->!-- b\n".toList := by
  decide +kernel

end ChannelLint.Comment
