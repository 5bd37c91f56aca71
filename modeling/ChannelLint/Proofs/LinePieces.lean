import ChannelLint.Proofs.WarningLines

/-!
# Pieces between line feeds

A text can be cut into lines, which keep their terminators, or into the pieces between its line
feeds, of which there is always one more than there are line feeds. `Rows.split_at_feed` ties the two
together: the pieces of a row of texts are these texts without their ends. Since stripping deletes
only within the body of a line, the pieces of a stripped text are in step with those of the text:
`strip_lines_aligned`.
-/

namespace ChannelLint

namespace Text

/-! ## Cutting at a separator -/

/-- There is one more piece than there are separators. -/
theorem split_at_char_length (separator : Char) (text : List Char) :
    (splitAtChar separator text).length = text.count separator + 1 := by
  fun_induction splitAtChar separator text with
  | case1 => rfl
  | case2 c rest hsep ih =>
      obtain rfl : c = separator := by simpa using hsep
      rw [List.length_cons, ih, List.count_cons_self]
  | case3 c rest hsep hpieces ih =>
      rw [hpieces] at ih
      cases ih
  | case4 c rest hsep piece pieces hpieces ih =>
      rw [hpieces] at ih
      rw [List.count_cons_of_ne (by simpa using hsep), ← ih]
      rfl

/-- A text without separators is its only piece. -/
theorem split_at_char_of_not_mem {separator : Char} {text : List Char} (h : separator ∉ text) :
    splitAtChar separator text = [text] := by
  induction text with
  | nil => rfl
  | cons c rest ih =>
      rw [List.mem_cons, not_or] at h
      have hc : (c == separator) = false := beq_eq_false_iff_ne.mpr (Ne.symm h.1)
      simp [splitAtChar, hc, ih h.2]

/-- A text without separators in front of the first separator is the first piece. -/
theorem split_at_char_cons {separator : Char} {text : List Char} (h : separator ∉ text)
    (rest : List Char) :
    splitAtChar separator (text ++ separator :: rest) = text :: splitAtChar separator rest := by
  induction text with
  | nil => simp [splitAtChar]
  | cons c text ih =>
      rw [List.mem_cons, not_or] at h
      have hc : (c == separator) = false := beq_eq_false_iff_ne.mpr (Ne.symm h.1)
      simp [splitAtChar, hc, ih h.2]

/-! ## Rows -/

/-- The piece at the index of a text in a row is this text without its end. -/
theorem Rows.split_at_feed {rows : List (List Char)} (h : Rows rows) {index : Nat}
    (hindex : index < rows.length) :
    (splitAtChar '\n' rows.flatten)[index]? = some (splitTerminator rows[index]).1 := by
  induction h generalizing index with
  | nil => cases hindex
  | @last body hbody =>
      obtain rfl : index = 0 := by simpa using hindex
      have hsplit := split_terminator_append hbody (.inl rfl)
      rw [List.append_nil] at hsplit
      simp [split_at_char_of_not_mem hbody, hsplit]
  | @cons body rest hbody hrest ih =>
      rw [List.flatten_cons, List.append_assoc, List.singleton_append, split_at_char_cons hbody]
      cases index with
      | zero => simp [split_terminator_append hbody (.inr rfl)]
      | succ index => simpa using ih (Nat.lt_of_succ_lt_succ hindex)

end Text

namespace Comment

open Text

/-! ## Stripped lines -/

/-- A line that ends as another has the terminator of that line. -/
theorem split_terminator_of_ends_alike {line changed : List Char} (h : EndsAlike line changed)
    (hline : ∃ body terminator, '\n' ∉ body ∧ IsTerminator terminator ∧
      line = body ++ terminator) :
    (splitTerminator changed).2 = (splitTerminator line).2 := by
  obtain ⟨body, terminator, hbody, hterminator, rfl⟩ := hline
  obtain ⟨kept, hkept, rfl⟩ := h body terminator hbody hterminator rfl
  rw [split_terminator_append hkept hterminator, split_terminator_append hbody hterminator]

/-- What is left of a line of a text ends as the line does, and characters of the line are only
deleted. -/
theorem stripped_line_kept (dialect : Dialect) {state : CommentState} {lines : List (List Char)}
    (h : ∀ line ∈ lines, ∃ body terminator, '\n' ∉ body ∧ IsTerminator terminator ∧
      line = body ++ terminator) :
    ∀ line ∈ stripLines dialect state lines,
      (splitTerminator line.code).2 = (splitTerminator line.raw).2 ∧
        line.code.Sublist line.raw := by
  induction lines generalizing state with
  | nil => simp [stripLines]
  | cons line rest ih =>
      obtain ⟨hline, hrest⟩ := List.forall_mem_cons.mp h
      rw [stripLines, List.forall_mem_cons]
      refine ⟨⟨?_, ?_⟩, ih hrest⟩
      · exact split_terminator_of_ends_alike (strip_ends_alike dialect state line) hline
      · obtain ⟨body, terminator, hbody, hterminator, rfl⟩ := hline
        obtain ⟨kept, hkept, heq⟩ := strip_body dialect state hbody hterminator
        rw [heq]
        exact hkept.append (List.Sublist.refl terminator)

/-- The text that a rule looks at has as many pieces as the text. -/
theorem seen_pieces_length (dialect : Dialect) (includeComments : Bool) (text : List Char) :
    (splitAtChar '\n' ((stripLines dialect .outside (splitLines text)).map
      (seen dialect includeComments)).flatten).length = (splitAtChar '\n' text).length := by
  have hfeeds := (split_lines_rows text).line_feeds_ends_alike
    (seen_ends_alike dialect includeComments .outside (splitLines text))
  rw [split_lines_flatten] at hfeeds
  simp only [lineFeeds] at hfeeds
  rw [split_at_char_length, split_at_char_length, hfeeds]

/-- Stripping keeps lines aligned and only deletes. For every line of a text there is a stripped
line, which has the same terminator and is a part of it in order. With and without comments the text
falls into as many pieces as before, and without comments the piece at the index of a line is what is
left of the line without its terminator. -/
theorem strip_lines_aligned (dialect : Dialect) (text : List Char) :
    let lines := splitLines text
    let stripped := stripLines dialect .outside lines
    let pieces := splitAtChar '\n' (withoutComments stripped)
    stripped.map StrippedLine.raw = lines ∧
      (splitAtChar '\n' (withComments dialect stripped)).length =
        (splitAtChar '\n' text).length ∧
      pieces.length = (splitAtChar '\n' text).length ∧
      (∀ (index : Nat) (line : StrippedLine), stripped[index]? = some line →
        pieces[index]? = some (splitTerminator line.code).1) ∧
      ∀ line ∈ stripped, (splitTerminator line.code).2 = (splitTerminator line.raw).2 ∧
        line.code.Sublist line.raw := by
  intro lines stripped pieces
  refine ⟨strip_lines_raw dialect .outside lines, ?_, ?_, ?_, ?_⟩
  · have hlength := seen_pieces_length dialect true text
    rwa [seen_flatten] at hlength
  · have hlength := seen_pieces_length dialect false text
    rwa [seen_flatten] at hlength
  · intro index line hline
    obtain ⟨hindex, rfl⟩ := List.getElem?_eq_some_iff.mp hline
    have hpiece := (seen_rows dialect false .outside text).split_at_feed
      (show index < (stripped.map (seen dialect false)).length by simpa using hindex)
    rwa [seen_flatten, List.getElem_map] at hpiece
  · exact stripped_line_kept dialect fun line hline => (split_lines_rows text).body_of_mem hline

end Comment

end ChannelLint
