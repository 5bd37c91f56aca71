import ChannelLint.Proofs.TagLines

/-!
# Well-indented markup

A `Forest` holds elements with a choice of layout for each, and blank lines and comments between
them. `Forest.lines` prints it, every line of an element and every comment of one line at its
nesting depth. `Forest.prints` says that the depth machine finds these depths and comes back to the
depth at which it started, and `markup_layout_clean` that the printed text is clean.

Every part of a forest is read from a state in which neither a tag nor a comment is open,
`at depth`, and leads back to such a state; only within the lines of a broken tag and of a comment
of several lines the machine is in other states.
-/

namespace ChannelLint

open Text Indentation

namespace Markup

/-! ## The parts of elements -/

/-- A text within a line that holds no angle brackets. -/
def Inline (text : List Char) : Prop :=
  ∀ c ∈ text, isAngle c = false ∧ c ≠ '\n'

namespace Inline

variable {text : List Char}

theorem no_angles (h : Inline text) : NoAngles text :=
  fun c hc => (h c hc).1

theorem unbroken (h : Inline text) : '\n' ∉ text :=
  fun hmem => (h _ hmem).2 rfl

theorem append {other : List Char} (h : Inline text) (hother : Inline other) :
    Inline (text ++ other) :=
  List.forall_mem_append.mpr ⟨h, hother⟩

theorem cons {c : Char} (hc : isAngle c = false ∧ c ≠ '\n') (h : Inline text) :
    Inline (c :: text) :=
  List.forall_mem_cons.mpr ⟨hc, h⟩

theorem nil : Inline [] := by
  simp [Inline]

theorem spaces (count : Nat) : Inline (List.replicate count ' ') := by
  intro c hc
  rw [(List.mem_replicate.mp hc).2]
  decide

end Inline

/-- Whether a name may go on with the character. -/
def isNamePart (c : Char) : Bool :=
  c.isAlphanum || c == '_' || c == ':' || c == '.' || c == '-'

/-- The name of an element or an attribute. -/
structure Name where
  /-- The first character. -/
  first : Char
  /-- The other characters. -/
  rest : List Char
  first_ok : isNameStart first = true
  rest_ok : ∀ c ∈ rest, isNamePart c = true

namespace Name

/-- The characters of a name. -/
def text (name : Name) : List Char :=
  name.first :: name.rest

/-- The characters of a name but the first stand within a line. -/
theorem rest_inline (name : Name) : Inline name.rest := by
  intro c hc
  have hpart := name.rest_ok c hc
  refine ⟨?_, ?_⟩
  · rw [← Bool.not_eq_true, isAngle, Bool.or_eq_true, beq_iff_eq, beq_iff_eq]
    rintro (rfl | rfl) <;> cases hpart
  · rintro rfl
    cases hpart

/-- The first character of a name stands within a line. -/
theorem first_inline (name : Name) : isAngle name.first = false ∧ name.first ≠ '\n' := by
  have hfirst := name.first_ok
  refine ⟨?_, ?_⟩
  · rw [← Bool.not_eq_true, isAngle, Bool.or_eq_true, beq_iff_eq, beq_iff_eq]
    rintro (heq | heq) <;> rw [heq] at hfirst <;> cases hfirst
  · intro heq
    rw [heq] at hfirst
    cases hfirst

/-- A name stands within a line. -/
theorem text_inline (name : Name) : Inline name.text :=
  name.rest_inline.cons name.first_inline

end Name

/-- An attribute of a tag. -/
structure Attribute where
  /-- The name of the attribute. -/
  key : Name
  /-- The value between the quotes. -/
  value : List Char
  value_inline : Inline value
  value_unquoted : '"' ∉ value

namespace Attribute

/-- The characters of an attribute. -/
def text (field : Attribute) : List Char :=
  field.key.text ++ ['=', '"'] ++ field.value ++ ['"']

/-- An attribute stands within a line. -/
theorem text_inline (field : Attribute) : Inline field.text := by
  have hmarks : Inline ['=', '"'] := .cons (by decide) (.cons (by decide) .nil)
  exact ((field.key.text_inline.append hmarks).append field.value_inline).append
    (.cons (by decide) .nil)

/-- An attribute ends with a quote. -/
theorem text_last (field : Attribute) : field.text.getLast? = some '"' := by
  rw [text, List.getLast?_concat]

end Attribute

/-- The text of an element on one line. -/
structure InlineText where
  /-- The characters. -/
  chars : List Char
  inline : Inline chars

/-- A line of a comment, without the marks around the comment. -/
structure RemarkLine where
  /-- The characters. -/
  chars : List Char
  unbroken : '\n' ∉ chars
  no_dashes : ¬ ['-', '-'] <:+: chars

/-- A start tag on one line. -/
structure StartTag where
  /-- The name of the element. -/
  name : Name
  /-- The attributes, each behind a space. -/
  attributes : List Attribute
  /-- The number of spaces in front of the end of the tag. -/
  gap : Nat

namespace StartTag

/-- The characters of the tag behind the first character of its name. -/
def inner (tag : StartTag) : List Char :=
  tag.name.rest ++ tag.attributes.flatMap (fun field => ' ' :: field.text) ++
    List.replicate tag.gap ' '

/-- The tag with the mark that ends it. -/
def text (tag : StartTag) (mark : List Char) : List Char :=
  '<' :: tag.name.first :: (tag.inner ++ mark)

/-- The inner characters of a tag stand within a line. -/
theorem inner_inline (tag : StartTag) : Inline tag.inner := by
  refine (tag.name.rest_inline.append ?_).append (.spaces tag.gap)
  intro c hc
  obtain ⟨field, -, hmem⟩ := List.mem_flatMap.mp hc
  exact field.text_inline.cons (by decide) c hmem

/-- A tag does not end with a slash before its mark. -/
theorem inner_last (tag : StartTag) : tag.inner.getLast? ≠ some '/' := by
  have hname : tag.name.rest.getLast? ≠ some '/' := by
    intro hlast
    cases tag.name.rest_ok _ (List.mem_of_getLast? hlast)
  have hattributes : (tag.name.rest ++
      tag.attributes.flatMap fun field => ' ' :: field.text).getLast? ≠ some '/' := by
    rcases List.eq_nil_or_concat tag.attributes with hnil | ⟨others, last, hlast⟩
    · simpa [hnil] using hname
    · simp [hlast, List.getLast?_append, List.getLast?_cons, last.text_last]
  cases hgap : tag.gap with
  | zero => simpa [inner, hgap] using hattributes
  | succ gap => simp [inner, hgap, List.replicate_succ', ← List.append_assoc]

end StartTag

/-- Where the end of a tag stands whose attributes stand on lines of their own. -/
inductive TagEnding where
  /-- Behind the last attribute, with a number of spaces between them. -/
  | behind (last : Attribute) (gap : Nat)
  /-- On a line of its own below the attributes. -/
  | below

/-- A start tag whose attributes stand on lines of their own. -/
structure BrokenTag where
  /-- The name of the element. -/
  name : Name
  /-- The attributes, apart from one that the end of the tag stands behind. -/
  attributes : List Attribute
  /-- Where the tag ends. -/
  ending : TagEnding

/-- The lines of a broken tag at the given depth, with the mark that ends it. -/
def BrokenTag.lines (config : IndentConfig) (depth : Nat) (tag : BrokenTag) (mark : List Char) :
    List PlacedLine :=
  placedAt config depth ('<' :: tag.name.text) ::
    (tag.attributes.map (fun field => placedAt config (depth + 1) field.text) ++
      match tag.ending with
      | .behind last gap =>
          [placedAt config (depth + 1) (last.text ++ List.replicate gap ' ' ++ mark)]
      | .below => [placedAt config depth mark])

/-! ## Forests -/

/-- A part of a forest without elements inside it. -/
inductive Leaf where
  /-- A blank line. -/
  | blank (line : BlankLine)
  /-- A comment on one line. -/
  | remark (line : RemarkLine)
  /-- A comment on several lines, the first of which may have blanks in front. -/
  | remarks (lead : BlankLine) (first : RemarkLine) (middle : List RemarkLine) (last : RemarkLine)
  /-- An element that its start tag closes. -/
  | empty (tag : StartTag)
  /-- An element with a text on one line. -/
  | inline (tag : StartTag) (text : InlineText)
  /-- An element that its broken start tag closes. -/
  | brokenEmpty (tag : BrokenTag)

/-- The start tag of an element with other parts inside it. -/
inductive Opening where
  /-- A start tag on one line. -/
  | start (tag : StartTag)
  /-- A broken start tag. -/
  | broken (tag : BrokenTag)

/-- The name of the element. -/
def Opening.name : Opening → Name
  | start tag => tag.name
  | broken tag => tag.name

/-- Elements, comments and blank lines one after the other. -/
inductive Forest where
  /-- Nothing. -/
  | nil
  /-- A part without elements inside it, and what follows it. -/
  | leaf (part : Leaf) (rest : Forest)
  /-- An element with its start tag, its children and its end tag on lines of their own, and what
  follows it. -/
  | block (opening : Opening) (children rest : Forest)

/-- The end tag of an element. -/
def endTag (name : Name) : List Char :=
  '<' :: '/' :: name.first :: (name.rest ++ ['>'])

/-- The lines of a leaf at the given depth. -/
def Leaf.lines (config : IndentConfig) (depth : Nat) : Leaf → List PlacedLine
  | blank line => [⟨line.text, some depth⟩]
  | remark line => [placedAt config depth (Comment.openMark ++ (line.chars ++ Comment.closeMark))]
  | remarks lead first middle last =>
      ⟨lead.text ++ (Comment.openMark ++ first.chars), none⟩ ::
        (middle.map (fun line => ⟨line.chars, none⟩) ++ [⟨last.chars ++ Comment.closeMark, none⟩])
  | empty tag => [placedAt config depth (tag.text ['/', '>'])]
  | inline tag text => [placedAt config depth (tag.text ('>' :: (text.chars ++ endTag tag.name)))]
  | brokenEmpty tag => tag.lines config depth ['/', '>']

/-- The lines of a start tag at the given depth. -/
def Opening.lines (config : IndentConfig) (depth : Nat) : Opening → List PlacedLine
  | start tag => [placedAt config depth (tag.text ['>'])]
  | broken tag => tag.lines config depth ['>']

/-- The lines of a forest at the given depth; children stand one level deeper. -/
def Forest.lines (config : IndentConfig) (depth : Nat) : Forest → List PlacedLine
  | nil => []
  | leaf part rest => part.lines config depth ++ rest.lines config depth
  | block opening children rest =>
      opening.lines config depth ++ (children.lines config (depth + 1) ++
        (placedAt config depth (endTag opening.name) :: rest.lines config depth))

/-- The text of a forest; the flag says that its last line ends with a line feed. -/
def Forest.print (config : IndentConfig) (ended : Bool) (forest : Forest) : List Char :=
  ofBodies ended ((forest.lines config 0).map PlacedLine.body)

end Markup

/-! ## Single lines -/

/-- The state at the given depth in which nothing is open. -/
def IndentState.at (depth : Nat) : IndentState :=
  { depth := depth }

/-- The state at the given depth in which a tag is unfinished. -/
def IndentState.inTagAt (depth : Nat) : IndentState :=
  { depth := depth, inTag := true }

/-- The state at the given depth in which a comment is open. -/
def IndentState.inCommentAt (depth : Nat) : IndentState :=
  { depth := depth, inComment := true }

namespace Markup

open IndentState (startsWith shift)

variable (config : IndentConfig)

/-- A line with something in front that is neither space nor tab has no indentation. -/
theorem leading_cons_of_not_indent {c : Char} (hc : isIndent c = false) (text : List Char) :
    leading (c :: text) = [] :=
  List.takeWhile_cons_of_neg (by rw [Bool.not_eq_true]; exact hc)

/-- Where the codes of ASCII letters lie. -/
theorem code_of_letter {c : Char} (hc : c.isAlpha = true) : 65 ≤ c.toNat ∧ c.toNat ≤ 122 := by
  obtain hupper | hlower := Bool.or_eq_true_iff.mp hc
  · obtain ⟨hfrom, hto⟩ := of_decide_eq_true hupper
    exact ⟨hfrom, le_trans (UInt32.le_iff_toNat_le.mp hto) (by decide)⟩
  · obtain ⟨hfrom, hto⟩ := Bool.and_eq_true_iff.mp hlower
    exact ⟨le_trans (by decide) (UInt32.le_iff_toNat_le.mp (of_decide_eq_true hfrom)),
      of_decide_eq_true hto⟩

/-- A name does not start with a blank. -/
theorem Name.not_blank (name : Name) : isBlank name.first = false := by
  obtain hletter | heq := Bool.or_eq_true_iff.mp name.first_ok
  · obtain ⟨hfrom, hto⟩ := code_of_letter hletter
    simp only [isBlank, Bool.or_eq_false_iff, Bool.and_eq_false_iff, decide_eq_false_iff_not,
      beq_eq_false_iff_ne]
    omega
  · rw [beq_iff_eq.mp heq]
    rfl

/-- A name does not start with a space or tab. -/
theorem Name.not_indent (name : Name) : isIndent name.first = false := by
  have hblank := name.not_blank
  rw [← Bool.not_eq_true]
  intro hindent
  rw [is_blank_of_indent hindent] at hblank
  cases hblank

/-- Reading a line of code at its place, from what its tags say. -/
theorem prints_code {body : List Char} {depth : Nat} {state after : IndentState}
    (hcode : IsCode body) (hflush : leading body = []) (hbody : '\n' ∉ body)
    (hend : ∀ c ∈ body.getLast?, c ≠ '\r' ∧ c ≠ '\n') (hcomment : state.inComment = false)
    (hdata : state.inData = false) (htags : state.stepTags body = ⟨after, some depth⟩) :
    Prints config .markup .outside state [placedAt config depth body] .outside after := by
  have hstep := state.step_code hcode hcomment hdata
  rw [drop_breaks_eq_self hend, htags] at hstep
  exact .indented hflush hbody (Comment.strip_state_of_code hcode hbody) hstep

/-- A start tag adds to the balance unless it closes its element. -/
theorem balance_start {c : Char} {inner : List Char} (hc : isNameStart c = true)
    (h : NoAngles inner) (rest : List Char) :
    balance ('<' :: c :: (inner ++ '>' :: rest)) =
      (if inner.getLast? = some '/' then 0 else 1) + balance rest := by
  rw [balance, tags_start hc h]
  simp [balance, Tag.balance]

/-- A line that starts with a start tag and ends with the end of that or of another tag. -/
theorem prints_tags (depth : Nat) {c : Char} {inner rest : List Char}
    (hc : isNameStart c = true) (hinner : Inline inner) (hrest : IsCode rest)
    (hbroken : '\n' ∉ rest) (hlast : ('>' :: rest).getLast? = some '>')
    (hends : endsInTag rest = false) :
    Prints config .markup .outside (.at depth)
      [placedAt config depth ('<' :: c :: (inner ++ '>' :: rest))] .outside
      (.at (shift depth ((if inner.getLast? = some '/' then 0 else 1) + balance rest))) := by
  have hopen : '<' ∉ inner ++ ['>'] := by
    simp [hinner.no_angles.not_mem_open]
  have hcode : IsCode ('<' :: c :: (inner ++ '>' :: rest)) := by
    have htag := IsCode.tag (.inl hc) hopen hrest
    rwa [List.append_assoc, List.singleton_append] at htag
  have hfeed : c ≠ '\n' := by
    rintro rfl
    cases hc
  have hclose : startsWith ['<', '/'] ('<' :: c :: (inner ++ '>' :: rest)) = false := by
    rw [IndentState.starts_with_cons (by decide)]
    simp [List.isPrefixOf, (ne_slash_of_name_start hc).symm]
  have hending : endsInTag ('<' :: c :: (inner ++ '>' :: rest)) = false := by
    rw [← List.cons_append, ← List.cons_append, ends_in_tag_append, hends]
  refine prints_code config hcode (leading_cons_of_not_indent (by decide) _) ?_ ?_ rfl rfl ?_
  · simp [hfeed.symm, hinner.unbroken, hbroken]
  · intro d hd
    rw [← List.cons_append, ← List.cons_append, List.getLast?_append, hlast] at hd
    cases hd
    decide
  · have htags := IndentState.step_tags_outside (.at depth) rfl hcode.no_data_open
    simpa [hclose, hending, balance_start hc hinner.no_angles, IndentState.at] using htags

/-- A start tag on its own line. -/
theorem StartTag.prints_start (tag : StartTag) (depth : Nat) :
    Prints config .markup .outside (.at depth) [placedAt config depth (tag.text ['>'])] .outside
      (.at (depth + 1)) := by
  have htag := prints_tags config depth tag.name.first_ok tag.inner_inline
    (.of_no_open List.not_mem_nil) List.not_mem_nil rfl rfl
  simpa [tag.inner_last, balance, tags, StartTag.text] using htag

/-- A start tag that closes its element on its own line. -/
theorem StartTag.prints_empty (tag : StartTag) (depth : Nat) :
    Prints config .markup .outside (.at depth) [placedAt config depth (tag.text ['/', '>'])]
      .outside (.at depth) := by
  have hinner : Inline (tag.inner ++ ['/']) := tag.inner_inline.append (.cons (by decide) .nil)
  have htag := prints_tags config depth tag.name.first_ok hinner
    (.of_no_open List.not_mem_nil) List.not_mem_nil rfl rfl
  simpa [balance, tags, StartTag.text] using htag

/-- An end tag is code. -/
theorem end_tag_code (name : Name) : IsCode (endTag name) := by
  have hopen : '<' ∉ name.text ++ ['>'] := by
    simp [name.text_inline.no_angles.not_mem_open]
  have htag := IsCode.tag (.inr rfl) hopen (.of_no_open List.not_mem_nil)
  rwa [List.append_nil] at htag

/-- An element with a text on one line. -/
theorem StartTag.prints_inline (tag : StartTag) (text : InlineText) (depth : Nat) :
    Prints config .markup .outside (.at depth)
      [placedAt config depth (tag.text ('>' :: (text.chars ++ endTag tag.name)))] .outside
      (.at depth) := by
  have hopen := text.inline.no_angles.not_mem_open
  have hbalance : balance (text.chars ++ endTag tag.name) = -1 := by
    rw [balance, tags_append hopen, endTag,
      tags_end tag.name.first_ok tag.name.rest_inline.no_angles]
    rfl
  have hcode : IsCode (text.chars ++ endTag tag.name) := by
    have hend := end_tag_code tag.name
    constructor
    · rw [pair_infix_append hopen]
      exact hend.no_exclamation
    · rw [pair_infix_append hopen]
      exact hend.no_question
  have hends : endsInTag (text.chars ++ endTag tag.name) = false := by
    have hsplit : text.chars ++ endTag tag.name =
        (text.chars ++ '<' :: '/' :: tag.name.text) ++ '>' :: [] := by
      simp [endTag, Name.text]
    rw [hsplit, ends_in_tag_append]
    rfl
  have hbroken : '\n' ∉ text.chars ++ endTag tag.name := by
    simp [endTag, text.inline.unbroken, tag.name.rest_inline.unbroken, tag.name.first_inline.2.symm]
  have hlast : ('>' :: (text.chars ++ endTag tag.name)).getLast? = some '>' := by
    simp [endTag, List.getLast?_cons, List.getLast?_append]
  have htag := prints_tags config depth tag.name.first_ok tag.inner_inline hcode hbroken
    hlast hends
  simpa [tag.inner_last, hbalance, StartTag.text] using htag

/-- An end tag on its own line, one level less deep than the lines before it. -/
theorem prints_end (name : Name) (depth : Nat) :
    Prints config .markup .outside (.at (depth + 1)) [placedAt config depth (endTag name)] .outside
      (.at depth) := by
  have hcode := end_tag_code name
  have hclose : startsWith ['<', '/'] (endTag name) = true := by
    rw [endTag, IndentState.starts_with_cons (by decide)]
    rfl
  have hbalance : balanceAfterLeading (endTag name) = 0 := by
    rw [balanceAfterLeading, endTag, tags_end name.first_ok name.rest_inline.no_angles]
    rfl
  have hends : endsInTag (endTag name) = false := by
    have hsplit : endTag name = ('<' :: '/' :: name.text) ++ '>' :: [] := by
      simp [endTag, Name.text]
    rw [hsplit, ends_in_tag_append]
    rfl
  refine prints_code config hcode (leading_cons_of_not_indent (by decide) _) ?_ ?_ rfl rfl ?_
  · simp [endTag, name.rest_inline.unbroken, name.first_inline.2.symm]
  · simp [endTag, List.getLast?_cons, List.getLast?_append]
  · have htags := IndentState.step_tags_outside (.at (depth + 1)) rfl hcode.no_data_open
    simpa [hclose, hbalance, hends, IndentState.at] using htags

/-! ## Broken tags -/

/-- A name does not end with a line break. -/
theorem Name.text_last (name : Name) : ∀ c ∈ name.text.getLast?, c ≠ '\r' ∧ c ≠ '\n' := by
  intro c hc
  have hmem : c ∈ name.text := List.mem_of_getLast? hc
  refine ⟨?_, (name.text_inline c hmem).2⟩
  rintro rfl
  rcases List.mem_cons.mp hmem with hfirst | hrest
  · cases hfirst ▸ name.first_ok
  · cases name.rest_ok _ hrest

/-- The first line of a broken tag. -/
theorem prints_broken_start (name : Name) (depth : Nat) :
    Prints config .markup .outside (.at depth) [placedAt config depth ('<' :: name.text)] .outside
      (.inTagAt (depth + 1)) := by
  have hinner := name.rest_inline.no_angles
  have hcode : IsCode ('<' :: name.text) := by
    have htag := IsCode.tag (.inl name.first_ok) hinner.not_mem_open (.of_no_open List.not_mem_nil)
    rwa [List.append_nil] at htag
  have hclose : startsWith ['<', '/'] ('<' :: name.text) = false := by
    rw [IndentState.starts_with_cons (by decide)]
    simp [Name.text, List.isPrefixOf, (ne_slash_of_name_start name.first_ok).symm]
  have hbalance : balance ('<' :: name.text) = 0 := by
    rw [balance, Name.text, tags_unfinished name.first_ok hinner]
    rfl
  have hends : endsInTag ('<' :: name.text) = true := ends_in_tag_start name.first_ok hinner
  refine prints_code config hcode (leading_cons_of_not_indent (by decide) _) ?_ ?_ rfl rfl ?_
  · simp [name.text_inline.unbroken]
  · intro c hc
    rw [Name.text, List.getLast?_cons_cons] at hc
    exact name.text_last c hc
  · have htags := IndentState.step_tags_outside (.at depth) rfl hcode.no_data_open
    simpa [hclose, hbalance, hends, IndentState.at, IndentState.inTagAt] using htags

/-- A text without angle brackets starts with no mark that holds one. -/
theorem not_starts_with {mark text : List Char} {c : Char} (hc : isAngle c = true) (hmem : c ∈ mark)
    (h : NoAngles text) : startsWith mark text = false := by
  rw [← Bool.not_eq_true]
  intro hstart
  rw [h c ((IndentState.infix_of_starts_with hstart).subset hmem)] at hc
  cases hc

/-- An attribute on a line of its own. -/
theorem Attribute.prints (field : Attribute) (depth : Nat) :
    Prints config .markup .outside (.inTagAt depth) [placedAt config depth field.text] .outside
      (.inTagAt depth) := by
  have hangles := field.text_inline.no_angles
  have hcode : IsCode field.text := .of_no_open hangles.not_mem_open
  have hself : ['>', '/'].isPrefixOf (trimEnd field.text).reverse = false := by
    rw [← Bool.not_eq_true, List.isPrefixOf_iff_prefix]
    intro hmark
    have hmem : '>' ∈ trimEnd field.text :=
      List.mem_reverse.mp (hmark.subset List.mem_cons_self)
    exact hangles.not_mem_close ((List.rdropWhile_prefix _ _).subset hmem)
  have hbalance : balance field.text = 0 := by
    rw [balance, tags_of_no_open hangles.not_mem_open]
    rfl
  refine prints_code config hcode (leading_cons_of_not_indent field.key.not_indent _)
    field.text_inline.unbroken ?_ rfl rfl ?_
  · simp [field.text_last]
  · have htags := IndentState.step_tags_inside (.inTagAt depth) rfl hcode.no_data_open
      (not_starts_with (by decide) List.mem_cons_self hangles)
      (not_starts_with (by decide) (List.mem_cons_of_mem _ List.mem_cons_self) hangles)
      (not_starts_with (by decide) List.mem_cons_self hangles)
    simpa [hself, hbalance, hangles.not_mem_close, IndentState.inTagAt] using htags

/-- Trimming the end of a text keeps a last character that is not blank. -/
theorem trim_end_concat {c : Char} (hc : isBlank c = false) (text : List Char) :
    trimEnd (text ++ [c]) = text ++ [c] := by
  simp [trimEnd, dropEndWhile, hc]

/-- The end of a tag closes the element if a slash stands in front of it. -/
theorem self_closes_iff (inner : List Char) :
    ['>', '/'].isPrefixOf (trimEnd (inner ++ ['>'])).reverse = (inner.getLast? == some '/') := by
  rw [trim_end_concat (by decide), List.reverse_concat, List.getLast?_eq_head?_reverse]
  cases inner.reverse with
  | nil => rfl
  | cons c rest => simp [List.isPrefixOf, Bool.beq_comm]

/-- An attribute and what follows it up to the end of a tag on the same line. -/
theorem Attribute.prints_end (field : Attribute) {behind inner : List Char}
    (hbehind : Inline behind) (htext : inner = field.text ++ behind) (depth : Nat) :
    Prints config .markup .outside (.inTagAt (depth + 1))
      [placedAt config (depth + 1) (inner ++ ['>'])] .outside
      (.at (if inner.getLast? = some '/' then depth else depth + 1)) := by
  have hinner : Inline inner := htext ▸ field.text_inline.append hbehind
  have hopen : '<' ∉ inner ++ ['>'] := by
    simp [hinner.no_angles.not_mem_open]
  have hcode : IsCode (inner ++ ['>']) := .of_no_open hopen
  have hfirst := field.key.not_blank
  have hstart : ∀ mark marks, field.key.first ≠ mark →
      startsWith (mark :: marks) (inner ++ ['>']) = false := by
    intro mark marks hne
    simp only [htext, Attribute.text, Name.text, List.cons_append,
      IndentState.starts_with_cons hfirst, beq_eq_false_iff_ne.mpr (Ne.symm hne), Bool.false_and]
  have hangle : ∀ mark, isAngle mark = true → field.key.first ≠ mark := by
    rintro mark hmark rfl
    rw [field.key.first_inline.1] at hmark
    cases hmark
  have hbalance : balance (inner ++ ['>']) = 0 := by
    rw [balance, tags_of_no_open hopen]
    rfl
  refine prints_code config hcode ?_ ?_ ?_ rfl rfl ?_
  · rw [htext]
    exact leading_cons_of_not_indent field.key.not_indent _
  · simp [hinner.unbroken]
  · simp
  · have htags := IndentState.step_tags_inside (.inTagAt (depth + 1)) rfl hcode.no_data_open
      (hstart '<' _ (hangle '<' rfl)) (hstart '/' _ (ne_slash_of_name_start field.key.first_ok))
      (hstart '>' _ (hangle '>' rfl))
    rw [self_closes_iff, hbalance] at htags
    by_cases hlast : inner.getLast? = some '/' <;>
      simpa [hlast, IndentState.inTagAt, IndentState.at] using htags

/-- The end of a tag on its own line stands at the depth of the tag. -/
theorem prints_below (depth : Nat) :
    Prints config .markup .outside (.inTagAt (depth + 1)) [placedAt config depth ['>']] .outside
      (.at (depth + 1)) := by
  have htags : (IndentState.inTagAt (depth + 1)).stepTags ['>'] =
      ⟨.at (shift depth 1), some depth⟩ := rfl
  rw [IndentState.shift_one] at htags
  exact prints_code config (.of_no_open (by decide)) rfl (by decide) (by simp) rfl rfl htags

/-- The end of a tag that closes its element on its own line stands at the depth of the tag. -/
theorem prints_below_empty (depth : Nat) :
    Prints config .markup .outside (.inTagAt (depth + 1)) [placedAt config depth ['/', '>']]
      .outside (.at depth) := by
  have htags : (IndentState.inTagAt (depth + 1)).stepTags ['/', '>'] =
      ⟨.at (shift depth 0), some depth⟩ := rfl
  rw [IndentState.shift_zero] at htags
  exact prints_code config (.of_no_open (by decide)) rfl (by decide) (by simp) rfl rfl htags

/-- The lines of a broken tag, from what its last line leads to. -/
theorem BrokenTag.prints_lines (tag : BrokenTag) {depth : Nat} {mark : List Char}
    {final : IndentState}
    (hbehind : ∀ (last : Attribute) (gap : Nat),
      Prints config .markup .outside (.inTagAt (depth + 1))
        [placedAt config (depth + 1) (last.text ++ List.replicate gap ' ' ++ mark)] .outside final)
    (hbelow : Prints config .markup .outside (.inTagAt (depth + 1)) [placedAt config depth mark]
      .outside final) :
    Prints config .markup .outside (.at depth) (tag.lines config depth mark) .outside final := by
  have hattributes : ∀ fields : List Attribute,
      Prints config .markup .outside (.inTagAt (depth + 1))
        (fields.map fun field => placedAt config (depth + 1) field.text) .outside
        (.inTagAt (depth + 1)) := by
    intro fields
    induction fields with
    | nil => exact .nil
    | cons field fields ih => exact (field.prints config (depth + 1)).append ih
  refine (prints_broken_start config tag.name depth).append ((hattributes tag.attributes).append ?_)
  cases tag.ending with
  | behind last gap => exact hbehind last gap
  | below => exact hbelow

/-- An attribute and spaces behind it do not end with a slash. -/
theorem Attribute.gap_last (field : Attribute) (gap : Nat) :
    (field.text ++ List.replicate gap ' ').getLast? ≠ some '/' := by
  cases gap with
  | zero => simp [field.text_last]
  | succ gap => simp [List.replicate_succ', ← List.append_assoc]

/-- A broken tag that opens an element. -/
theorem BrokenTag.prints_start (tag : BrokenTag) (depth : Nat) :
    Prints config .markup .outside (.at depth) (tag.lines config depth ['>']) .outside
      (.at (depth + 1)) := by
  refine tag.prints_lines config (fun last gap => ?_) (prints_below config depth)
  have hend := last.prints_end config (.spaces gap) rfl depth
  rwa [if_neg (last.gap_last gap)] at hend

/-- A broken tag that closes its element. -/
theorem BrokenTag.prints_empty (tag : BrokenTag) (depth : Nat) :
    Prints config .markup .outside (.at depth) (tag.lines config depth ['/', '>']) .outside
      (.at depth) := by
  refine tag.prints_lines config (fun last gap => ?_) (prints_below_empty config depth)
  have hspaces : Inline (List.replicate gap ' ' ++ ['/']) :=
    (Inline.spaces gap).append (.cons (by decide) .nil)
  have hend := last.prints_end config hspaces rfl depth
  simpa [List.getLast?_append] using hend

/-! ## Comments and blank lines -/

/-- A blank line. -/
theorem prints_blank (line : BlankLine) (depth : Nat) :
    Prints config .markup .outside (.at depth) [⟨line.text, some depth⟩] .outside (.at depth) := by
  have hopen : '<' ∉ line.text := by
    intro hmem
    cases List.all_eq_true.mp line.blank _ hmem
  have hcode : IsCode line.text := .of_no_open hopen
  have hkept : '<' ∉ dropBreaks line.text := fun hmem =>
    hopen ((drop_breaks_initial line.text).subset hmem)
  have hclose : startsWith ['<', '/'] (dropBreaks line.text) = false := by
    rw [← Bool.not_eq_true]
    exact fun hstart => hkept ((IndentState.infix_of_starts_with hstart).subset List.mem_cons_self)
  have hbalance : balance (dropBreaks line.text) = 0 := by
    rw [balance, tags_of_no_open hkept]
    rfl
  have htags := IndentState.step_tags_outside (.at depth) rfl (IsCode.of_no_open hkept).no_data_open
  have hstep := (IndentState.at depth).step_code hcode rfl rfl
  rw [htags] at hstep
  refine .single (by simp [isFlagged, line.blank]) line.unbroken
    (Comment.strip_state_of_code hcode line.unbroken) ?_
  show (IndentState.at depth).step .markup line.text false = _
  simpa [hclose, hbalance, ends_in_tag_of_no_open hkept, IndentState.at] using hstep

/-- The closing mark does not stand across a line of a comment and the mark behind it. -/
theorem not_close_initial {c : Char} {chars : List Char} (h : ¬ ['-', '-'] <:+: c :: chars)
    (rest : List Char) : ¬ Comment.closeMark <+: c :: (chars ++ (Comment.closeMark ++ rest)) := by
  rw [Comment.close_mark_initial_iff]
  rintro ⟨rfl, after, heq⟩
  cases chars with
  | nil => cases heq
  | cons d chars =>
      obtain ⟨rfl, -⟩ := List.cons.inj heq
      exact h ⟨[], chars, rfl⟩

/-- A comment is split at the mark behind its text. -/
theorem split_once_close {chars : List Char} (h : ¬ ['-', '-'] <:+: chars) (rest : List Char) :
    splitOnce Comment.closeMark (chars ++ (Comment.closeMark ++ rest)) = some (chars, rest) := by
  induction chars with
  | nil => rfl
  | cons c chars ih =>
      have hrest : ¬ ['-', '-'] <:+: chars := fun hpart =>
        h (hpart.trans (List.suffix_cons c chars).isInfix)
      have hstart : Comment.closeMark.isPrefixOf (c :: (chars ++ (Comment.closeMark ++ rest))) =
          false := by
        rw [← Bool.not_eq_true, List.isPrefixOf_iff_prefix]
        exact not_close_initial h rest
      rw [List.cons_append, splitOnce, hstart, if_neg (by simp), ih hrest]
      rfl

/-- A text with no two dashes in a row holds no closing mark. -/
theorem not_close_mark {chars : List Char} (h : ¬ ['-', '-'] <:+: chars) :
    ¬ Comment.closeMark <:+: chars := fun hpart =>
  h (List.IsInfix.trans ⟨[], ['>'], rfl⟩ hpart)

/-- A text with no two dashes in a row holds no opening mark. -/
theorem not_open_mark {chars : List Char} (h : ¬ ['-', '-'] <:+: chars) :
    ¬ Comment.openMark <:+: chars := fun hpart =>
  h (List.IsInfix.trans ⟨['<', '!'], [], rfl⟩ hpart)

/-- The text of a comment is dropped up to the mark behind it. -/
theorem drop_inline_close {chars : List Char} (h : ¬ ['-', '-'] <:+: chars) (rest : List Char) :
    Comment.dropInline true (chars ++ (Comment.closeMark ++ rest)) =
      Comment.dropInline false rest := by
  induction chars with
  | nil => rfl
  | cons c chars ih =>
      have hrest : ¬ ['-', '-'] <:+: chars := fun hpart =>
        h (hpart.trans (List.suffix_cons c chars).isInfix)
      rw [List.cons_append, Comment.dropInline, ih hrest]
      intro after hc heq
      exact not_close_initial h rest (Comment.close_mark_initial_iff.mpr ⟨hc, after, heq⟩)

/-- A comment on one line. -/
theorem RemarkLine.prints (line : RemarkLine) (depth : Nat) :
    Prints config .markup .outside (.at depth)
      [placedAt config depth (Comment.openMark ++ (line.chars ++ Comment.closeMark))] .outside
      (.at depth) := by
  have hcloses : Comment.closesInLine (line.chars ++ Comment.closeMark) = true := by
    have hbody : '\n' ∉ line.chars ++ Comment.closeMark := by
      simp [Comment.closeMark, line.unbroken]
    rw [Comment.closes_in_line_eq hbody]
    exact occurs_in_iff.mpr (List.suffix_append _ _).isInfix
  have hdrop : Comment.dropInline false (Comment.openMark ++ (line.chars ++ Comment.closeMark)) =
      [] := by
    have hinside := drop_inline_close line.no_dashes []
    rw [List.append_nil] at hinside
    simp only [Comment.openMark, List.cons_append, List.nil_append, Comment.dropInline, hcloses,
      ↓reduceIte, hinside]
  have hbody : '\n' ∉ Comment.openMark ++ (line.chars ++ Comment.closeMark) := by
    simp [Comment.openMark, Comment.closeMark, line.unbroken]
  have hends : dropBreaks (Comment.openMark ++ (line.chars ++ Comment.closeMark)) =
      Comment.openMark ++ (line.chars ++ Comment.closeMark) := by
    refine drop_breaks_eq_self ?_
    simp [Comment.closeMark, List.getLast?_append]
  refine .indented rfl hbody ?_ ?_
  · have hterminator := split_terminator_append hbody (.inl rfl)
    rw [List.append_nil] at hterminator
    simp only [Comment.strip, Comment.stripMarkup, hterminator, Comment.stripMarkupOutside, hdrop]
    rfl
  · have hdeclaration : isDeclaration (Comment.openMark ++ (line.chars ++ Comment.closeMark)) =
        false := rfl
    have htags : (IndentState.at depth).stepTags [] = ⟨.at (shift depth 0), some depth⟩ := rfl
    rw [IndentState.shift_zero] at htags
    show (IndentState.at depth).stepMarkup _ false = _
    simp only [IndentState.stepMarkup, hends, hdeclaration, hdrop, IndentState.at,
      Bool.false_eq_true, ↓reduceIte]
    exact htags

/-- A line is split at the opening mark of a comment behind a text without angle brackets. -/
theorem split_once_open {lead : List Char} (h : '<' ∉ lead) (rest : List Char) :
    splitOnce Comment.openMark (lead ++ (Comment.openMark ++ rest)) = some (lead, rest) := by
  induction lead with
  | nil => rfl
  | cons c lead ih =>
      rw [List.mem_cons, not_or] at h
      rw [List.cons_append, split_once_cons (by simpa [Comment.openMark] using h.1) (by decide),
        ih h.2]
      rfl

/-- A comment that does not end on its line is not taken out. -/
theorem drop_inline_unclosed {chars : List Char} (h : ¬ ['-', '-'] <:+: chars)
    (hbody : '\n' ∉ chars) : Comment.dropInline false (Comment.openMark ++ chars) =
      Comment.openMark ++ chars := by
  have hcloses : Comment.closesInLine chars = false := by
    rw [Comment.closes_in_line_eq hbody, split_once_eq_none (not_close_mark h)]
    rfl
  simp only [Comment.openMark, List.cons_append, List.nil_append, Comment.dropInline, hcloses,
    Bool.false_eq_true, ↓reduceIte, Comment.drop_inline_eq_self (not_open_mark h)]

/-- The first line of a comment of several lines. -/
theorem RemarkLine.prints_first (lead : BlankLine) (line : RemarkLine) (depth : Nat) :
    Prints config .markup .outside (.at depth)
      [⟨lead.text ++ (Comment.openMark ++ line.chars), none⟩] .inside (.inCommentAt depth) := by
  have hlead : '<' ∉ lead.text := by
    intro hmem
    cases List.all_eq_true.mp lead.blank _ hmem
  have hbody : '\n' ∉ lead.text ++ (Comment.openMark ++ line.chars) := by
    simp [Comment.openMark, lead.unbroken, line.unbroken]
  have hterminator := split_terminator_append hbody (.inl rfl)
  rw [List.append_nil] at hterminator
  refine .single rfl hbody ?_ ?_
  · simp only [Comment.strip, Comment.stripMarkup, hterminator, Comment.stripMarkupOutside,
      Comment.drop_inline_append hlead, drop_inline_unclosed line.no_dashes line.unbroken,
      split_once_open hlead]
  · -- line breaks at the end belong to the comment
    have hkept := drop_breaks_initial line.chars
    have hchars : ¬ ['-', '-'] <:+: dropBreaks line.chars := fun hpart =>
      line.no_dashes (hpart.trans hkept.isInfix)
    have hends : dropBreaks (lead.text ++ (Comment.openMark ++ line.chars)) =
        lead.text ++ (Comment.openMark ++ dropBreaks line.chars) := by
      have hbehind := drop_breaks_behind (c := '-') (by decide) (lead.text ++ ['<', '!', '-'])
        line.chars
      simpa [Comment.openMark] using hbehind
    have hdeclaration :
        isDeclaration (lead.text ++ (Comment.openMark ++ dropBreaks line.chars)) = false := by
      have htrim : trimStart (lead.text ++ (Comment.openMark ++ dropBreaks line.chars)) =
          Comment.openMark ++ dropBreaks line.chars :=
        List.dropWhile_append_of_pos (List.all_eq_true.mp lead.blank)
      rw [isDeclaration, htrim]
      rfl
    show (IndentState.at depth).stepMarkup _ true = _
    simp only [IndentState.stepMarkup, hends, hdeclaration, IndentState.at,
      Comment.drop_inline_append hlead,
      drop_inline_unclosed hchars (fun hmem => line.unbroken (hkept.subset hmem)),
      split_once_open hlead, Option.map_some, Option.getD_some, lead.blank, Bool.false_eq_true,
      ↓reduceIte, IndentState.inCommentAt]

/-- A line inside a comment. -/
theorem RemarkLine.prints_middle (line : RemarkLine) (depth : Nat) :
    Prints config .markup .inside (.inCommentAt depth) [⟨line.chars, none⟩] .inside
      (.inCommentAt depth) := by
  have hterminator := split_terminator_append line.unbroken (.inl rfl)
  rw [List.append_nil] at hterminator
  have hclose : splitOnce Comment.closeMark line.chars = none :=
    split_once_eq_none (not_close_mark line.no_dashes)
  have hkept : splitOnce Comment.closeMark (dropBreaks line.chars) = none := by
    refine split_once_eq_none fun hpart => not_close_mark line.no_dashes ?_
    exact hpart.trans (drop_breaks_initial line.chars).isInfix
  refine .single rfl line.unbroken ?_ ?_
  · simp only [Comment.strip, Comment.stripMarkup, hterminator, hclose]
  · show (IndentState.inCommentAt depth).stepMarkup line.chars true = _
    simp only [IndentState.stepMarkup, IndentState.inCommentAt, hkept, ↓reduceIte]

/-- The last line of a comment of several lines. -/
theorem RemarkLine.prints_last (line : RemarkLine) (depth : Nat) :
    Prints config .markup .inside (.inCommentAt depth) [⟨line.chars ++ Comment.closeMark, none⟩]
      .outside (.at depth) := by
  have hbody : '\n' ∉ line.chars ++ Comment.closeMark := by
    simp [Comment.closeMark, line.unbroken]
  have hterminator := split_terminator_append hbody (.inl rfl)
  rw [List.append_nil] at hterminator
  have hclose := split_once_close line.no_dashes []
  rw [List.append_nil] at hclose
  have hends : dropBreaks (line.chars ++ Comment.closeMark) = line.chars ++ Comment.closeMark := by
    refine drop_breaks_eq_self ?_
    simp [Comment.closeMark, List.getLast?_append]
  refine .single rfl hbody ?_ ?_
  · simp only [Comment.strip, Comment.stripMarkup, hterminator, hclose]
    rfl
  · have htail : (IndentState.at depth).passTail [] = ⟨.at (shift depth 0), none⟩ := rfl
    rw [IndentState.shift_zero] at htail
    show (IndentState.inCommentAt depth).stepMarkup (line.chars ++ Comment.closeMark) false = _
    simp only [IndentState.stepMarkup, IndentState.inCommentAt, hends, hclose, ↓reduceIte,
      Bool.false_eq_true]
    exact htail

/-! ## Whole forests -/

/-- A leaf leads back to the state before it. -/
theorem Leaf.prints (leaf : Leaf) (depth : Nat) :
    Prints config .markup .outside (.at depth) (leaf.lines config depth) .outside (.at depth) := by
  cases leaf with
  | blank line => exact prints_blank config line depth
  | remark line => exact line.prints config depth
  | remarks lead first middle last =>
      have hmiddle : ∀ lines : List RemarkLine,
          Prints config .markup .inside (.inCommentAt depth)
            (lines.map fun line => ⟨line.chars, none⟩) .inside (.inCommentAt depth) := by
        intro lines
        induction lines with
        | nil => exact .nil
        | cons line lines ih => exact (line.prints_middle config depth).append ih
      exact (first.prints_first config lead depth).append
        ((hmiddle middle).append (last.prints_last config depth))
  | empty tag => exact tag.prints_empty config depth
  | inline tag text => exact tag.prints_inline config text depth
  | brokenEmpty tag => exact tag.prints_empty config depth

/-- A start tag leads one level deeper. -/
theorem Opening.prints (opening : Opening) (depth : Nat) :
    Prints config .markup .outside (.at depth) (opening.lines config depth) .outside
      (.at (depth + 1)) := by
  cases opening with
  | start tag => exact tag.prints_start config depth
  | broken tag => exact tag.prints_start config depth

/-- The machine finds every line of a forest at its place and comes back to the depth at which the
forest starts. -/
theorem Forest.prints (forest : Forest) (depth : Nat) :
    Prints config .markup .outside (.at depth) (forest.lines config depth) .outside
      (.at depth) := by
  induction forest generalizing depth with
  | nil => exact .nil
  | leaf part rest ih => exact (part.prints config depth).append (ih depth)
  | block opening children rest ihChildren ihRest =>
      have hend := prints_end config opening.name depth
      exact (opening.prints config depth).append
        ((ihChildren (depth + 1)).append (hend.append (ihRest depth)))

end Markup

namespace Inspection

open Comment

/-- Markup whose lines stand at their nesting depths is clean: nothing is flagged, and the depth
after the last line is zero. It is found to be clean unless it is longer than any text can be. -/
theorem markup_layout_clean (config : IndentConfig) (forest : Markup.Forest) (ended : Bool) :
    let text := forest.print config ended
    let stripped := stripLines .markup .outside (splitLines text)
    let steps := indentSteps .markup stripped
    flaggedFrom config 0 ((splitLines text).zip steps) = [] ∧
      (endState {} steps).depth = 0 ∧
      (misindented config .markup stripped = .ok [] ∨ maxLength < text.length) := by
  intro text stripped steps
  have hprints := forest.prints config 0
  obtain ⟨-, hend, hflagged, -⟩ := hprints.clean ended
  exact ⟨hflagged, congrArg IndentState.depth hend, misindented_of_prints hprints ended⟩

end Inspection

end ChannelLint
