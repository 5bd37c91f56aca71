import ChannelLint.Proofs.OpenElements

/-!
# Tags with quoted values

The value of an attribute may hold any character but an opening angle bracket and its own quote, so
that a closing angle bracket in a value does not end the tag. The search for tags knows no quotes: it
takes a tag to end at the first closing angle bracket, and to be self-closing if a slash stands there.
What is left of the tag behind this place holds no opening angle bracket, and so no other tag is found
in it (`tags_tag_append`).

`balances_count_tags_iff` says which tags are counted as what they are: a start tag without a slash at
this place, a self-closing tag with one, and every end tag. All tags whose values hold no closing
angle bracket are among them.
-/

namespace ChannelLint.Markup

open Text

/-! ## Tokens -/

/-- A text of blanks. -/
abbrev Blanks := { text : List Char // isBlankText text = true }

/-- Whether the character stands in a tag only as a mark: an angle bracket, a slash, an equals sign or
a quote. -/
def isTagMark (c : Char) : Bool :=
  isAngle c || c == '/' || c == '=' || c == '"' || c == Comment.scriptMark

/-- The name of a tag or an attribute, in any script. -/
structure FreeName where
  /-- The first character. -/
  first : Char
  /-- The other characters. -/
  rest : List Char
  unmarked : (first :: rest).all (fun c => !isTagMark c && !isBlank c) = true

/-- An attribute with its quoted value. -/
structure QuotedAttribute where
  /-- The blanks in front of the attribute. -/
  lead : Blanks
  /-- The name of the attribute. -/
  key : FreeName
  /-- The blanks in front of the equals sign. -/
  before : Blanks
  /-- The blanks behind the equals sign. -/
  after : Blanks
  /-- The quote around the value. -/
  quote : Char
  /-- The value. -/
  value : List Char
  quote_ok : quote = '"' ∨ quote = Comment.scriptMark
  value_ok : '<' ∉ value ∧ quote ∉ value

/-- The kinds of tags. -/
inductive TagKind where
  /-- A start tag, which opens an element. -/
  | start
  /-- A self-closing tag. -/
  | empty
  /-- An end tag, which closes an element. -/
  | close
  deriving DecidableEq

/-- A tag with its attributes. -/
structure QuotedTag where
  /-- What the tag is. -/
  kind : TagKind
  /-- The name of the element. -/
  name : FreeName
  /-- The attributes. -/
  attributes : List QuotedAttribute
  /-- The blanks in front of the end of the tag. -/
  gap : Blanks

/-- A tag, or text outside tags. -/
inductive Token where
  /-- A text without angle brackets. -/
  | text (chars : List Char) (noAngles : NoAngles chars)
  /-- A tag. -/
  | tag (one : QuotedTag)

/-- The characters of an attribute. -/
def QuotedAttribute.chars (field : QuotedAttribute) : List Char :=
  field.lead.val ++ field.key.first :: field.key.rest ++ field.before.val ++ '=' :: field.after.val ++
    field.quote :: field.value ++ [field.quote]

namespace QuotedTag

/-- What stands in a tag behind the first character of its name, up to the mark that ends it. -/
def inner (tag : QuotedTag) : List Char :=
  tag.name.rest ++ tag.attributes.flatMap QuotedAttribute.chars ++ tag.gap.val

/-- A tag behind the first character of its name. -/
def body (tag : QuotedTag) : List Char :=
  tagEnd (tag.kind == .empty) tag.inner

/-- The characters of a tag. -/
def chars (tag : QuotedTag) : List Char :=
  '<' :: (if tag.kind = .close then ['/'] else []) ++ tag.name.first :: tag.body

/-- Whether a slash stands in front of the first closing angle bracket. -/
def isSlashed (tag : QuotedTag) : Bool :=
  (tag.body.takeWhile (· != '>')).getLast? == some '/'

/-- What the search for tags takes the tag for. -/
def found (tag : QuotedTag) : Tag :=
  ⟨tag.kind == .close, tag.isSlashed⟩

end QuotedTag

namespace Token

/-- The characters of a token. -/
def chars : Token → List Char
  | text chars _ => chars
  | tag one => one.chars

/-- The tag that a token is. -/
def tag? : Token → Option QuotedTag
  | text _ _ => none
  | tag one => some one

/-- Whether the token is a tag of the given kind. -/
def isKind (kind : TagKind) (token : Token) : Bool :=
  token.tag?.any (·.kind == kind)

/-- A tag of the token has a name that the search for tags takes for one. -/
def IsNamed (token : Token) : Prop :=
  ∀ tag ∈ token.tag?, isNameStart tag.name.first = true

/-- A tag of the token is counted as what it is: up to the first closing angle bracket it looks like a
tag of its kind. -/
def IsRead (token : Token) : Prop :=
  ∀ tag ∈ token.tag?, tag.kind ≠ .close → tag.isSlashed = (tag.kind == .empty)

instance (token : Token) : Decidable token.IsNamed :=
  inferInstanceAs (Decidable (∀ _ ∈ _, _))

instance (token : Token) : Decidable token.IsRead :=
  inferInstanceAs (Decidable (∀ _ ∈ _, _))

end Token

/-- The line that the tokens make up. -/
def lineOf (tokens : List Token) : List Char :=
  tokens.flatMap Token.chars

/-- The number of start tags less the number of end tags. -/
def excess (tokens : List Token) : Int :=
  (tokens.countP (Token.isKind .start) : Int) - tokens.countP (Token.isKind .close)

/-- Whether the first tag is an end tag. -/
def leadsWithClose (tokens : List Token) : Bool :=
  (tokens.findSome? Token.tag?).any (·.kind == .close)

/-! ## What stands in a tag -/

/-- No mark of a tag is a blank. -/
theorem not_mem_blanks {c : Char} (hc : isBlank c = false) (blanks : Blanks) : c ∉ blanks.val := by
  intro hmem
  have hblank := List.all_eq_true.mp blanks.property c hmem
  rw [hc] at hblank
  cases hblank

/-- No mark of a tag stands in a name. -/
theorem FreeName.not_mem {c : Char} (hc : isTagMark c = true) (name : FreeName) :
    c ∉ name.first :: name.rest := by
  intro hmem
  have hunmarked := List.all_eq_true.mp name.unmarked c hmem
  rw [hc] at hunmarked
  cases hunmarked

/-- An angle bracket stands in an attribute only in its value. -/
theorem QuotedAttribute.angle_mem_iff {c : Char} (hc : isAngle c = true) (field : QuotedAttribute) :
    c ∈ field.chars ↔ c ∈ field.value := by
  have hmark : isTagMark c = true := by simp [isTagMark, hc]
  have hname := field.key.not_mem hmark
  have hangle : c = '<' ∨ c = '>' := by simpa [isAngle] using hc
  have hblank : isBlank c = false := by rcases hangle with rfl | rfl <;> rfl
  have hblanks := not_mem_blanks hblank
  have hquote : c ≠ '=' ∧ c ≠ field.quote := by
    rcases hangle with rfl | rfl <;> rcases field.quote_ok with hquote | hquote <;> rw [hquote] <;>
      decide
  rw [List.mem_cons, not_or] at hname
  simp [chars, hblanks, hname, hquote]

namespace QuotedTag

/-- No other tag starts within a tag. -/
theorem not_open_body (tag : QuotedTag) : '<' ∉ tag.body := by
  have hname := List.not_mem_of_not_mem_cons (tag.name.not_mem (rfl : isTagMark '<' = true))
  have hgap := not_mem_blanks (rfl : isBlank '<' = false) tag.gap
  have hattributes : ∀ field ∈ tag.attributes, '<' ∉ field.chars := fun field _ hmem =>
    field.value_ok.1 ((field.angle_mem_iff rfl).mp hmem)
  cases hkind : (tag.kind == .empty) <;>
    simpa [body, tagEnd, inner, hname, hgap, hkind] using hattributes

/-- A tag ends with a closing angle bracket. -/
theorem close_mem_body (tag : QuotedTag) : '>' ∈ tag.body := by
  simp [body, tagEnd]

end QuotedTag

/-! ## What is found in a token -/

/-- A tag is found up to its first closing angle bracket, and nothing in what is left of it. -/
theorem tags_tag_append {tag : QuotedTag} (hname : isNameStart tag.name.first = true)
    (rest : List Char) : tags (tag.chars ++ rest) = tag.found :: tags rest := by
  obtain ⟨inner, tail, hbody, hinner⟩ := List.eq_append_cons_of_mem tag.close_mem_body
  have hopen := tag.not_open_body
  rw [hbody, List.mem_append, List.mem_cons, not_or, not_or] at hopen
  have hangles : NoAngles inner := by
    intro c hc
    have hne : c ≠ '<' ∧ c ≠ '>' :=
      ⟨fun heq => hopen.1 (heq ▸ hc), fun heq => hinner (heq ▸ hc)⟩
    simpa [isAngle] using hne
  have hslashed : tag.isSlashed = (inner.getLast? == some '/') := by
    have hall : ∀ c ∈ inner, (c != '>') = true := by
      intro c hc
      have hne : c ≠ '>' := fun heq => hinner (heq ▸ hc)
      simpa using hne
    rw [QuotedTag.isSlashed, hbody, List.takeWhile_append_of_pos hall]
    simp
  have htail : tags (tail ++ rest) = tags rest := tags_append hopen.2.2 rest
  cases hkind : tag.kind with
  | start | empty =>
      have htags := tags_start hname hangles (tail ++ rest)
      simp [QuotedTag.chars, QuotedTag.found, hkind, hbody, hslashed, htags, htail]
  | close =>
      have htags := tags_end hname hangles (tail ++ rest)
      simp [QuotedTag.chars, QuotedTag.found, hkind, hbody, hslashed, htags, htail]

/-- The tags on a line are found one after the other. -/
theorem tags_line_of {tokens : List Token} (hnames : ∀ token ∈ tokens, token.IsNamed) :
    tags (lineOf tokens) = (tokens.filterMap Token.tag?).map QuotedTag.found := by
  induction tokens with
  | nil => rfl
  | cons token rest ih =>
      rw [List.forall_mem_cons] at hnames
      have hline : lineOf (token :: rest) = token.chars ++ lineOf rest := rfl
      cases token with
      | text chars hangles =>
          rw [hline, Token.chars, tags_append hangles.not_mem_open, ih hnames.2]
          rfl
      | tag one =>
          rw [hline, Token.chars, tags_tag_append (hnames.1 one rfl), ih hnames.2]
          rfl

/-! ## Counting -/

/-- How many elements a tag of the kind leaves open. -/
def TagKind.change : TagKind → Int
  | start => 1
  | empty => 0
  | close => -1

/-- A tag counts as a tag of its kind exactly if it looks like one. -/
theorem balance_found_iff (tag : QuotedTag) :
    tag.found.balance = tag.kind.change ↔
      (tag.kind ≠ .close → tag.isSlashed = (tag.kind == .empty)) := by
  cases hkind : tag.kind <;> cases hslashed : tag.isSlashed <;>
    simp [QuotedTag.found, Tag.balance, TagKind.change, hkind, hslashed]

/-- Start tags and end tags are counted by the kinds of the tags. -/
theorem excess_eq (tokens : List Token) :
    excess tokens =
      ((tokens.filterMap Token.tag?).map fun tag => tag.kind.change).foldr (· + ·) 0 := by
  induction tokens with
  | nil => rfl
  | cons token rest ih =>
      cases token with
      | text chars hangles =>
          rw [List.filterMap_cons_none rfl, ← ih]
          rfl
      | tag one =>
          have hone : (Token.tag one).tag? = some one := rfl
          rw [List.filterMap_cons_some hone, List.map_cons, List.foldr_cons, ← ih]
          cases hkind : one.kind <;>
            simp [excess, Token.isKind, Token.tag?, TagKind.change, hkind] <;> omega

/-- An end tag in front is the difference that it makes to leave it out. -/
theorem balance_after_leading_eq (text : List Char) :
    balanceAfterLeading text =
      balance text + if (tags text).head?.any Tag.closing then 1 else 0 := by
  rw [balanceAfterLeading, balance]
  cases tags text with
  | nil => rfl
  | cons tag rest =>
      cases hclosing : tag.closing with
      | false => simp [hclosing]
      | true =>
          simp only [Tag.balance, hclosing, List.map_cons, List.foldr_cons, List.head?_cons,
            Option.any_some, if_true]
          omega

/-- An attribute ends with its quote, which is no slash. -/
theorem QuotedAttribute.last_ne_slash (field : QuotedAttribute) :
    field.chars.getLast? ≠ some '/' := by
  rw [chars, List.getLast?_concat, ne_eq, Option.some.injEq]
  rcases field.quote_ok with hquote | hquote <;> rw [hquote] <;> decide

/-- What stands in a tag in front of its end does not end with a slash. -/
theorem QuotedTag.inner_last_ne_slash (tag : QuotedTag) : tag.inner.getLast? ≠ some '/' := by
  intro hlast
  rw [inner, List.getLast?_append, List.getLast?_append, Option.or_eq_some_iff,
    Option.or_eq_some_iff] at hlast
  rcases hlast with hgap | ⟨-, hattributes | ⟨-, hname⟩⟩
  · exact not_mem_blanks rfl tag.gap (List.mem_of_getLast? hgap)
  · rcases List.eq_nil_or_concat tag.attributes with hnil | ⟨others, field, hfields⟩
    · rw [hnil] at hattributes
      cases hattributes
    · rw [hfields, List.concat_eq_append, List.flatMap_append, List.flatMap_singleton,
        List.getLast?_append_of_ne_nil _ (by simp [QuotedAttribute.chars])] at hattributes
      exact field.last_ne_slash hattributes
  · exact tag.name.not_mem rfl (List.mem_cons_of_mem _ (List.mem_of_getLast? hname))

/-- A tag whose values hold no closing angle bracket looks like a tag of its kind. -/
theorem QuotedTag.is_slashed_of_values {tag : QuotedTag}
    (h : ∀ field ∈ tag.attributes, '>' ∉ field.value) : tag.isSlashed = (tag.kind == .empty) := by
  have hangles : NoAngles tag.inner := by
    intro c hc
    by_contra hangle
    rw [Bool.not_eq_false] at hangle
    have hcases : c = '<' ∨ c = '>' := by simpa [isAngle] using hangle
    rw [inner, List.mem_append, List.mem_append] at hc
    rcases hc with (hname | hattributes) | hgap
    · exact tag.name.not_mem (by simp [isTagMark, hangle]) (List.mem_cons_of_mem _ hname)
    · obtain ⟨field, hfield, hmem⟩ := List.mem_flatMap.mp hattributes
      have hvalue := (field.angle_mem_iff hangle).mp hmem
      rcases hcases with rfl | rfl
      · exact field.value_ok.1 hvalue
      · exact h field hfield hvalue
    · exact not_mem_blanks (by rcases hcases with rfl | rfl <;> rfl) tag.gap hgap
  have hslash : Unslashed (tag.kind == .empty) tag.inner := fun _ => tag.inner_last_ne_slash
  have hlast := last_of_tag_end hangles hslash []
  rwa [List.append_nil] at hlast

/-- On a line of tags with names that the search for tags knows, so many start tags more than end tags
are counted as there are, and one more if a leading end tag is left out, for every choice of the tags
exactly if each start tag has no slash in front of its first closing angle bracket and each
self-closing tag has one. Every tag whose values hold no closing angle bracket is so. -/
theorem balances_count_tags_iff {tokens : List Token}
    (hnames : ∀ token ∈ tokens, token.IsNamed) :
    ((∀ row ⊆ tokens, balance (lineOf row) = excess row ∧
        balanceAfterLeading (lineOf row) = excess row + if leadsWithClose row then 1 else 0) ↔
      ∀ token ∈ tokens, token.IsRead) ∧
    ∀ token ∈ tokens, (∀ tag ∈ token.tag?, ∀ field ∈ tag.attributes, '>' ∉ field.value) →
      token.IsRead := by
  refine ⟨⟨fun hrows token htoken one hone => ?_, fun hread row hrow => ?_⟩,
    fun token _ hvalues one hone _ => QuotedTag.is_slashed_of_values (hvalues one hone)⟩
  · -- a row of one token shows whether that token is counted as what it is
    obtain ⟨hbalance, -⟩ := hrows [token] (List.cons_subset.mpr ⟨htoken, List.nil_subset _⟩)
    have htags := tags_line_of (List.forall_mem_singleton.mpr (hnames token htoken))
    rw [balance, htags, excess_eq, List.filterMap_cons_some hone] at hbalance
    exact (balance_found_iff one).mp (by simpa using hbalance)
  · have htags := tags_line_of fun token htoken => hnames token (hrow htoken)
    have hbalance : balance (lineOf row) = excess row := by
      rw [balance, htags, excess_eq, List.map_map]
      refine congrArg _ (List.map_congr_left fun one hone => ?_)
      obtain ⟨token, htoken, heq⟩ := List.mem_filterMap.mp hone
      exact (balance_found_iff one).mpr (hread token (hrow htoken) one heq)
    refine ⟨hbalance, ?_⟩
    rw [balance_after_leading_eq, hbalance, htags, List.head?_map, List.head?_filterMap]
    cases hfirst : row.findSome? Token.tag? <;>
      simp [leadsWithClose, hfirst, QuotedTag.found]

/-- A start tag with a closing angle bracket in one value and a slash in another, a self-closing tag with
both in its value, and an end tag, which is also looked at alone. -/
theorem balances_count_tags_quoted :
    let tokens : List Token :=
      [.tag ⟨.start, ⟨'a', [], rfl⟩,
          [⟨⟨[' '], rfl⟩, ⟨'x', [], rfl⟩, ⟨[], rfl⟩, ⟨[], rfl⟩, '"', "1>2".toList, .inl rfl,
              by decide⟩,
            ⟨⟨[' '], rfl⟩, ⟨'y', [], rfl⟩, ⟨[' '], rfl⟩, ⟨[], rfl⟩, Comment.scriptMark,
              "/".toList, .inr rfl, by decide⟩], ⟨[], rfl⟩⟩,
        .text "t".toList (by decide),
        .tag ⟨.empty, ⟨'b', [], rfl⟩,
          [⟨⟨[' '], rfl⟩, ⟨'z', [], rfl⟩, ⟨[], rfl⟩, ⟨[], rfl⟩, '"', "/>".toList, .inl rfl,
              by decide⟩], ⟨[' '], rfl⟩⟩,
        .tag ⟨.close, ⟨'a', [], rfl⟩, [], ⟨[], rfl⟩⟩]
    lineOf tokens = "<a x=\"1>2\" y ='/'>t<b z=\"/>\" /></a>".toList ∧
      (∀ token ∈ tokens, token.IsNamed) ∧ (∀ token ∈ tokens, token.IsRead) ∧
      balance (lineOf tokens) = excess tokens ∧ excess tokens = 0 ∧
      balanceAfterLeading (lineOf (tokens.drop 3)) = excess (tokens.drop 3) + 1 := by
  intro tokens
  have hnames : ∀ token ∈ tokens, token.IsNamed := by decide +kernel
  have hread : ∀ token ∈ tokens, token.IsRead := by decide +kernel
  have hrows := (balances_count_tags_iff hnames).1.mpr hread
  exact ⟨by decide +kernel, hnames, hread, (hrows tokens (List.Subset.refl tokens)).1,
    by decide +kernel, (hrows (tokens.drop 3) (List.drop_subset 3 tokens)).2⟩

/-- A start tag counts as self-closing if a value of it has a slash in front of a closing angle bracket,
and a self-closing tag as a start tag if a value has a closing angle bracket without one. A tag whose
name starts with a letter above ASCII does not count at all. -/
theorem tags_taken_for_others :
    let slashed : Token := .tag ⟨.start, ⟨'a', [], rfl⟩,
      [⟨⟨[' '], rfl⟩, ⟨'x', [], rfl⟩, ⟨[], rfl⟩, ⟨[], rfl⟩, '"', "/>".toList, .inl rfl,
        by decide⟩], ⟨[], rfl⟩⟩
    let unslashed : Token := .tag ⟨.empty, ⟨'a', [], rfl⟩,
      [⟨⟨[' '], rfl⟩, ⟨'x', [], rfl⟩, ⟨[], rfl⟩, ⟨[], rfl⟩, '"', "1>2".toList, .inl rfl,
        by decide⟩], ⟨[], rfl⟩⟩
    let foreign : Token := .tag ⟨.start, ⟨'é', [], rfl⟩, [], ⟨[], rfl⟩⟩
    slashed.chars = "<a x=\"/>\">".toList ∧ unslashed.chars = "<a x=\"1>2\"/>".toList ∧
      foreign.chars = "<é>".toList ∧
      (balance (lineOf [slashed]), excess [slashed]) = (0, 1) ∧
      (balance (lineOf [unslashed]), excess [unslashed]) = (1, 0) ∧
      (balance (lineOf [foreign]), excess [foreign]) = (0, 1) := by
  decide +kernel

end ChannelLint.Markup
