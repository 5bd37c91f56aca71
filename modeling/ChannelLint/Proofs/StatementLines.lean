import ChannelLint.Config.Basic
import ChannelLint.Proofs.IgnoreDirective
import ChannelLint.Proofs.ReadingOptions
import ChannelLint.Proofs.RicherLibraries
import ChannelLint.Proofs.SpelledWords
import ChannelLint.Proofs.TakenText
import ChannelLint.Proofs.WarningLines
import Mathlib

/-!
# The line of a statement

The built-in rules on statements look for blanks from the start of a line on and for a word behind
them. Line feeds are blanks, so a match may start on an earlier line than the statement, if nothing
is left of the lines between. `statement_warning_line` says what a warning of these rules means: the
statement stands below the line that the warning names by as many lines as the match has line feeds,
all lines from the named one up to it are blank, and the named one is the statement's own exactly if
it is not blank.
-/

namespace ChannelLint

open Text

namespace Text

/-! ## Lines of a row -/

/-- The text ends where a line does. -/
def EndsLine (before : List Char) : Prop :=
  before = [] ∨ ∃ body, before = body ++ ['\n']

/-- What stands behind a line feed in a text that ends where a line does ends there, too. -/
theorem EndsLine.behind_feed {body rest : List Char} (h : EndsLine (body ++ '\n' :: rest)) :
    EndsLine rest := by
  rcases List.eq_nil_or_concat rest with rfl | ⟨front, last, rfl⟩
  · exact .inl rfl
  · rw [List.concat_eq_append] at h ⊢
    rcases h with h | ⟨whole, h⟩
    · simp at h
    · rw [← List.cons_append, ← List.append_assoc] at h
      exact .inr ⟨front, by rw [(List.append_inj' h rfl).2]⟩

/-- A text without line feeds that ends where a line does is empty. -/
theorem EndsLine.eq_nil {before : List Char} (h : EndsLine before) (hfeed : '\n' ∉ before) :
    before = [] := by
  rcases h with rfl | ⟨body, rfl⟩
  · rfl
  · simp at hfeed

/-- The line feeds of a text are its first one and those behind it. -/
theorem line_feeds_append_cons {body : List Char} (h : '\n' ∉ body) (rest : List Char) :
    lineFeeds (body ++ '\n' :: rest) = lineFeeds rest + 1 := by
  have hnone : body.count '\n' = 0 := List.count_eq_zero.mpr h
  simp [lineFeeds, hnone]

namespace Rows

/-- The first line feed of a row of texts ends the first of them. -/
theorem of_first_feed {pieces : List (List Char)} {body rest : List Char} (h : Rows pieces)
    (hbody : '\n' ∉ body) (heq : pieces.flatten = body ++ '\n' :: rest) :
    ∃ others, pieces = (body ++ ['\n']) :: others ∧ Rows others ∧ others.flatten = rest := by
  cases h with
  | nil => simp at heq
  | last hpiece =>
      rw [List.flatten_singleton] at heq
      simp [heq] at hpiece
  | @cons piece others hpiece hrows =>
      rw [List.flatten_cons, List.append_assoc, List.singleton_append] at heq
      have hlines := congrArg splitLines heq
      rw [split_lines_cons _ hpiece, split_lines_cons _ hbody] at hlines
      obtain rfl : piece = body := List.append_cancel_right (List.cons.inj hlines).1
      exact ⟨others, rfl, hrows, (List.cons.inj (List.append_cancel_left heq)).2⟩

/-- A text without line feeds at the start of a row of texts stands at the start of the first. -/
theorem head_append {piece start after : List Char} {pieces : List (List Char)}
    (h : Rows (piece :: pieces)) (hstart : '\n' ∉ start)
    (heq : (piece :: pieces).flatten = start ++ after) : ∃ rest, piece = start ++ rest := by
  rw [List.flatten_cons] at heq
  cases h with
  | last _ => exact ⟨after, by simpa using heq⟩
  | @cons body _ hbody hrows =>
      rcases List.append_eq_append_iff.mp heq with ⟨more, hmore, -⟩ | ⟨rest, hrest, -⟩
      · -- more than the first text would hold its line feed
        rw [hmore] at hstart
        simp at hstart
      · exact ⟨rest, hrest⟩

/-- Behind the end of a line stand the texts of the row from there on. -/
theorem drop_line_feeds {pieces : List (List Char)} {before rest : List Char} (h : Rows pieces)
    (hends : EndsLine before) (heq : pieces.flatten = before ++ rest) :
    Rows (pieces.drop (lineFeeds before)) ∧
      (pieces.drop (lineFeeds before)).flatten = rest := by
  induction pieces generalizing before with
  | nil => simp_all
  | cons piece pieces ih =>
      by_cases hfeed : '\n' ∈ before
      · obtain ⟨body, later, rfl, hbody⟩ := List.eq_append_cons_of_mem hfeed
        rw [List.append_assoc, List.cons_append] at heq
        obtain ⟨others, hpieces, hrows, hrest⟩ := h.of_first_feed hbody heq
        cases hpieces
        rw [line_feeds_append_cons hbody, List.drop_succ_cons]
        exact ih hrows hends.behind_feed hrest
      · obtain rfl := hends.eq_nil hfeed
        exact ⟨h, heq⟩

/-- Where blanks and a word of one line stand at the start of a row of texts, every text that a line
feed among the blanks ends is made of blanks, and the next one holds the word behind blanks. -/
theorem word_behind_blanks {pieces : List (List Char)} {blanks word after : List Char}
    (h : Rows pieces) (hword : '\n' ∉ word) (hne : word ≠ [])
    (heq : pieces.flatten = blanks ++ word ++ after) :
    (∀ index < lineFeeds blanks, ∃ piece, pieces[index]? = some piece ∧ piece ⊆ blanks) ∧
      ∃ lead rest, pieces[lineFeeds blanks]? = some (lead ++ word ++ rest) ∧ lead ⊆ blanks := by
  induction pieces generalizing blanks with
  | nil => simp_all
  | cons piece pieces ih =>
      by_cases hfeed : '\n' ∈ blanks
      · obtain ⟨body, later, rfl, hbody⟩ := List.eq_append_cons_of_mem hfeed
        rw [List.append_assoc, List.append_assoc, List.cons_append, ← List.append_assoc] at heq
        obtain ⟨others, hpieces, hrows, hrest⟩ := h.of_first_feed hbody heq
        cases hpieces
        obtain ⟨hblank, lead, rest, hline, hlead⟩ := ih hrows hrest
        have hlater : later ⊆ body ++ '\n' :: later := by
          intro c hc
          simp [hc]
        rw [line_feeds_append_cons hbody]
        refine ⟨fun index hindex => ?_, lead, rest, hline, List.Subset.trans hlead hlater⟩
        cases index with
        | zero => exact ⟨_, rfl, List.append_subset.mpr ⟨List.subset_append_left _ _, by simp⟩⟩
        | succ index =>
            obtain ⟨other, hother, hsubset⟩ := hblank index (by omega)
            exact ⟨other, hother, List.Subset.trans hsubset hlater⟩
      · -- blanks and word stand on the first line, before its line feed if it has one
        have hnone : lineFeeds blanks = 0 := List.count_eq_zero.mpr hfeed
        rw [hnone]
        obtain ⟨rest, rfl⟩ := h.head_append (by simp [hfeed, hword]) heq
        exact ⟨fun index hindex => absurd hindex (Nat.not_lt_zero _), blanks, rest, rfl,
          List.Subset.refl _⟩

end Rows

end Text

namespace Pattern

variable {text : Array Char} {flags : Flags}

/-! ## Statement patterns -/

/-- The part that spells a word and goes on with another part. -/
def spell (word : List Char) (last : Node) : Node :=
  word.foldr (fun c rest => .seq (.code c.toNat) rest) last

/-- The part that takes blanks, as many as possible. -/
def blanks : Node :=
  .repeated 0 none .greedy (.oneOf false [.category .space false])

/-- The pattern of a statement: blanks from the start of a line on, and the word behind them. -/
def statement (word : Node) : Regex where
  root := .seq (.anchor .start) (.seq blanks word)
  flags := {}
  groups := 0
  names := []

section Letters

variable (hcase : flags.ignoreCase = true) (hascii : flags.ascii = false)
include hcase hascii

/-- A letter takes what it spells, when letter case does not count. -/
theorem code_takes (w : Char) :
    Takes text (Spells [w]) ((Node.code w.toNat).run text flags) := by
  refine (take_char_takes _).imp ?_
  rintro taken ⟨c, rfl, hsame⟩
  refine .cons ?_ .nil
  simp only [Flags.sameCode, hcase, hascii, Bool.not_true, Bool.false_eq_true, ite_false,
    Bool.or_eq_true, beq_iff_eq] at hsame
  rcases hsame with hsame | hsame
  · rw [hsame, same_letter_refl]
  · exact hsame

/-- A word takes what it spells, when letter case does not count. -/
theorem spell_takes (word : List Char) {last : Node}
    (hlast : Takes text (· = []) (last.run text flags)) :
    Takes text (Spells word) ((spell word last).run text flags) := by
  induction word with
  | nil => exact hlast.imp fun taken htaken => htaken ▸ .nil
  | cons w word ih =>
      refine ((code_takes hcase hascii w).seq ih).imp ?_
      rintro taken ⟨before, after, rfl, hbefore, hafter⟩
      exact List.rel_append hbefore hafter

end Letters

/-- Blanks take blanks. -/
theorem blanks_take (hascii : flags.ascii = false) :
    Takes text (fun taken => isBlankText taken = true) (blanks.run text flags) := by
  refine (repeat_char_takes _ 0 none).imp fun taken htaken => ?_
  rw [isBlankText, List.all_eq_true]
  intro c hc
  simpa [ClassItem.holds, Category.holds, hascii] using htaken c hc

/-- The start of a line is where a line ends before it. -/
theorem ends_line_of_start {pos : Nat} (h : Anchor.start.holds flags text pos = true) :
    EndsLine (text.toList.take pos) := by
  cases pos with
  | zero => exact .inl rfl
  | succ before =>
      cases hc : text[before]? with
      | none => simp [Anchor.holds, charBefore, hc] at h
      | some c =>
          obtain ⟨hlt, rfl⟩ := Array.getElem?_eq_some_iff.mp hc
          have hfeed : flags.multiLine = true ∧ text[before] = '\n' := by
            simpa [Anchor.holds, charBefore, hc] using h
          refine .inr ⟨text.toList.take before, ?_⟩
          rw [List.take_succ_eq_append_getElem (by simpa using hlt), Array.getElem_toList, hfeed.2]

/-- A match of a statement starts where a line does, and its text is blanks and a word. -/
theorem statement_match {word : Node} {condition : List Char → Prop} {pos : Nat} {found : Match}
    (hascii : flags.ascii = false)
    (hword : Takes text condition (word.run text flags))
    (h : (statement word).matchAt flags text pos = some found) :
    EndsLine (text.toList.take found.start) ∧ ∃ lead own after, isBlankText lead = true ∧
      condition own ∧ text.toList.drop found.start = lead ++ own ++ after ∧
      found.stop = found.start + (lead ++ own).length := by
  have hflags : flags.union {} = flags := by simp [Flags.union, Flags.combine]
  have htakes := (anchor_takes flags .start).seq ((blanks_take hascii).seq hword)
  rw [← hflags] at htakes
  obtain ⟨taken, ⟨_, _, rfl, rfl, lead, own, rfl, hlead, hown⟩, ⟨after, hafter⟩, hstop⟩ :=
    Regex.match_at_taken htakes h
  exact ⟨ends_line_of_start (Regex.match_at_anchor rfl h), lead, own, after, hlead, hown,
    hafter.symm, hstop⟩

end Pattern

/-! ## The rules on statements -/

/-- The built-in rules on statements, each with the words that start its statements. -/
inductive StatementRule : Rule → List String → Prop where
  | stop : StatementRule stopRule ["stop"]
  | print : StatementRule printRule ["print", "?"]

/-- The text is one of the words, without regard to case. -/
def SpellsOne (words : List String) (taken : List Char) : Prop :=
  ∃ word ∈ words, Spells word.toList taken

namespace StatementRule

variable {rule : Rule} {words : List String} (h : StatementRule rule words)
include h

/-- The pattern of a rule on statements is that of a statement, and takes one of its words. -/
theorem compile_eq [Library] : ∃ word : Pattern.Node, Scan.compile rule = .ok
    (Pattern.statement word) ∧
    ∀ text, Pattern.Takes text (SpellsOne words) (word.run text rule.flags) := by
  cases h with
  | stop =>
      have hparse : Pattern.Regex.parse stopRule.flags stopRule.pattern.toList =
          .ok (Pattern.statement (Pattern.spell "stop".toList (.anchor .boundary))) := by
        refine (Pattern.Regex.parse_matching_options _ _ _).trans (Pattern.Regex.parse_of_least ?_)
        cbv
      refine ⟨_, by rw [Scan.compile, hparse], fun text => ?_⟩
      exact (Pattern.spell_takes rfl rfl _ (Pattern.anchor_takes _ _)).imp fun taken htaken =>
        ⟨_, List.mem_cons_self, htaken⟩
  | print =>
      have hparse : Pattern.Regex.parse printRule.flags printRule.pattern.toList =
          .ok (Pattern.statement (.scoped {} {}
            (.alt (Pattern.spell "print".toList (.anchor .boundary)) (.code '?'.toNat)))) := by
        refine (Pattern.Regex.parse_matching_options _ _ _).trans (Pattern.Regex.parse_of_least ?_)
        cbv
      refine ⟨_, by rw [Scan.compile, hparse], fun text => ?_⟩
      have hprint : Pattern.Takes text (Spells "print".toList)
          ((Pattern.spell "print".toList (.anchor .boundary)).run text printRule.flags) :=
        Pattern.spell_takes rfl rfl _ (Pattern.anchor_takes _ _)
      have hmark : Pattern.Takes text (Spells "?".toList)
          ((Pattern.Node.code '?'.toNat).run text printRule.flags) :=
        Pattern.code_takes rfl rfl '?'
      refine (hprint.alt hmark).imp fun taken htaken => ?_
      rcases htaken with htaken | htaken
      · exact ⟨"print", by simp, htaken⟩
      · exact ⟨"?", by simp, htaken⟩

/-- What starts a statement is not empty and holds no blanks. -/
theorem word_not_blank {taken : List Char} (htaken : SpellsOne words taken) :
    taken ≠ [] ∧ ∀ c ∈ taken, isBlank c = false := by
  have hwords : ∀ word ∈ words, word.toList ≠ [] ∧ HasNoBlank word.toList := by
    cases h <;> decide +kernel
  obtain ⟨word, hword, hspells⟩ := htaken
  obtain ⟨hne, hnoblank⟩ := hwords word hword
  refine ⟨?_, fun c hc => hspells.not_blank hnoblank hc⟩
  rintro rfl
  exact hne (List.forall₂_nil_right_iff.mp hspells)

/-- A rule on statements is not the one on indentation. -/
theorem ne_indentation : rule ≠ indentationRule := by
  have hpattern : rule.pattern ≠ indentationRule.pattern := by cases h <;> decide
  exact fun heq => hpattern (congrArg Rule.pattern heq)

end StatementRule

/-! ## Lines of statements -/

/-- A statement that starts with one of the words stands on the line `own` of a script, and nothing
but blanks is left of the lines from `first` up to it. -/
structure StatementBelow (text : List Char) (words : List String) (first own : Nat) : Prop where
  /-- The lines above the statement are blank. -/
  blank_above : ∀ index, first ≤ index → index < own →
    ∃ line, (splitLines text)[index]? = some line ∧ isBlankText (Comment.stripScript line) = true
  /-- The statement starts its line, behind blanks. -/
  own_line : ∃ line lead word rest, (splitLines text)[own]? = some line ∧
    Comment.stripScript line = lead ++ word ++ rest ∧ isBlankText lead = true ∧ SpellsOne words word

/-- The first of these lines is that of the statement exactly if something but blanks is left of
it. -/
theorem StatementBelow.first_line {text : List Char} {rule : Rule} {words : List String}
    {first own : Nat} (h : StatementBelow text words first own) (hle : first ≤ own)
    (hrule : StatementRule rule words) :
    ∃ line, (splitLines text)[first]? = some line ∧
      (isBlankText (Comment.stripScript line) = false ↔ first = own) := by
  rcases Nat.lt_or_eq_of_le hle with hlt | rfl
  · obtain ⟨line, hline, hblank⟩ := h.blank_above first (Nat.le_refl _) hlt
    exact ⟨line, hline, by simp [hblank, Nat.ne_of_lt hlt]⟩
  · obtain ⟨line, lead, word, rest, hline, hcode, _, hword⟩ := h.own_line
    obtain ⟨hne, hletters⟩ := hrule.word_not_blank hword
    obtain ⟨c, word, rfl⟩ := List.exists_cons_of_ne_nil hne
    have hc := hletters c List.mem_cons_self
    exact ⟨line, hline, by simp [hcode, isBlankText, hc]⟩

namespace Inspection

/-- What a rule sees of the lines of a script is what is left of them. -/
theorem scanned_lines_script {path : Path} (hscript : Dialect.ofPath path = .script)
    (text : List Char) (rule : Rule) :
    scannedLines path text rule = (splitLines text).map Comment.stripScript := by
  rw [scannedLines, strippedLines, hscript, Comment.strip_lines_script, List.map_map]
  refine List.map_congr_left fun line _ => ?_
  simp [Comment.seen]

/-- A hit of a rule on statements: it is blanks and one of the words, and the statement stands below
its line by as many lines as it has line feeds. -/
theorem statement_hit [Library] {path : Path} {text : List Char} {rule : Rule} {words : List String}
    {regex : Pattern.Regex} {hit : Hit} (hscript : Dialect.ofPath path = .script)
    (hrule : StatementRule rule words) (hregex : Scan.compile rule = .ok regex)
    (h : hit ∈ Scan.hits (regex.search rule.flags (scannedText path text rule).toArray)
      (scannedText path text rule).toArray []) :
    StatementBelow text words hit.line (hit.line + lineFeeds
      (Scan.matchedText (scannedText path text rule).toArray hit.found).text.toList) := by
  obtain ⟨word, hcompile, hword⟩ := hrule.compile_eq
  cases hcompile.symm.trans hregex
  obtain ⟨_, hmatch, _, _⟩ := Scan.mem_hits_search h
  obtain ⟨hends, lead, own, after, hlead, hown, hdrop, hstop⟩ :=
    Pattern.statement_match rfl (hword _) hmatch
  obtain ⟨hne, hown'⟩ := hrule.word_not_blank hown
  have hfeed : '\n' ∉ own := fun hmem => by cases hown' _ hmem
  -- the matched text is the blanks and the word, of which only the blanks hold line feeds
  have htext : (Scan.matchedText (scannedText path text rule).toArray hit.found).text.toList =
      lead ++ own := by
    rw [Scan.matchedText, Scan.span_text_toList, List.drop_take, hdrop, hstop,
      Nat.add_sub_cancel_left, List.take_left]
  have hfeeds : lineFeeds (lead ++ own) = lineFeeds lead := by
    rw [lineFeeds, List.count_append, List.count_eq_zero.mpr hfeed, Nat.add_zero, lineFeeds]
  have hline := hit_line_eq h
  -- from the line of the hit on, what is left of the file is the blanks, the word and the rest
  have hrows : Rows (scannedLines path text rule) := Comment.seen_rows _ _ _ _
  obtain ⟨hrows, hrest⟩ := hrows.drop_line_feeds hends (by
    rw [scanned_lines_flatten]
    exact (List.take_append_drop _ _).symm)
  rw [hdrop] at hrest
  obtain ⟨hblank, before, behind, hown_line, hbefore⟩ := hrows.word_behind_blanks hfeed hne hrest
  have hlines : ∀ place, (scannedLines path text rule |>.drop hit.line)[place]? =
      (splitLines text)[hit.line + place]?.map Comment.stripScript := by
    intro place
    rw [List.getElem?_drop, scanned_lines_script hscript, List.getElem?_map]
  have hblanks : ∀ {piece : List Char}, piece ⊆ lead → isBlankText piece = true :=
    fun hsubset => List.all_eq_true.mpr fun c hc => List.all_eq_true.mp hlead c (hsubset hc)
  rw [htext, hfeeds]
  simp only [← hline, hlines] at hblank hown_line
  refine ⟨fun index hle hlt => ?_, ?_⟩
  · obtain ⟨piece, hpiece, hsubset⟩ := hblank (index - hit.line) (by omega)
    rw [Nat.add_sub_cancel' hle] at hpiece
    obtain ⟨line, hline, rfl⟩ := Option.map_eq_some_iff.mp hpiece
    exact ⟨line, hline, hblanks hsubset⟩
  · obtain ⟨line, hline, hcode⟩ := Option.map_eq_some_iff.mp hown_line
    exact ⟨line, before, own, behind, hline, hcode, hblanks hbefore, hown⟩

/-- A warning of a built-in rule on statements in a script: the statement stands below the named
line by as many lines as the match has line feeds, and the lines from the named one up to it are
blank. The named line does not hold the directive. It is the line of the statement, and the match
has no line feed, exactly if it is not blank. -/
theorem statement_warning_line [Library] {inspector : Inspector} {path : Path} {text : List Char}
    {result : Result} {warned : Warning} {words : List String}
    (hscript : Dialect.ofPath path = .script) (h : inspectText inspector path text = .ok result)
    (hmem : warned ∈ result.warnings) (hrule : StatementRule warned.rule words) :
    ∃ (found : MatchedText) (index : Nat) (named : List Char),
      warned.found = some found ∧ warned.line = index ∧ (splitLines text)[index]? = some named ∧
      Suppression.isDirective named = false ∧
      StatementBelow text words index (index + lineFeeds found.text.toList) ∧
      ('\n' ∉ found.text.toList ↔ isBlankText (Comment.stripScript named) = false) := by
  rcases warning_cases h hmem with ⟨index, _, rfl⟩ |
    ⟨rule, _, _, regex, hregex, hit, hhit, hsuppressed, rfl⟩
  · exact absurd rfl hrule.ne_indentation
  · have hrule : StatementRule rule words := hrule
    have hbelow := statement_hit hscript hrule hregex hhit
    obtain ⟨named, hnamed, hblank⟩ := hbelow.first_line (Nat.le_add_right _ _) hrule
    refine ⟨_, hit.line, named, rfl, rfl, hnamed, ?_, hbelow, ?_⟩
    · by_contra hdirective
      exact hsuppressed (Suppression.mem_lines.mpr ⟨named, hnamed, by simpa using hdirective⟩)
    · rw [hblank, Nat.left_eq_add, lineFeeds, List.count_eq_zero]

/-- A statement in capitals on the second line of a script, below a line that is not blank: the
warning names its own line. -/
theorem statement_warning_line_capitals :
    ∃ result warned, Dialect.ofPath (.ofString "a.brs") = .script ∧
      inspectText ⟨[stopRule], none⟩ (.ofString "a.brs") "x\n  STOP\n".toList = .ok result ∧
      warned ∈ result.warnings ∧ StatementRule warned.rule ["stop"] ∧
      warned.line = 1 ∧ warned.found = some ⟨"  STOP", [], 2, 8⟩ ∧
      ∃ (found : MatchedText) (index : Nat) (named : List Char),
        warned.found = some found ∧ warned.line = index ∧
        (splitLines "x\n  STOP\n".toList)[index]? = some named ∧
        Suppression.isDirective named = false ∧
        StatementBelow "x\n  STOP\n".toList ["stop"] index
          (index + lineFeeds found.text.toList) ∧
        ('\n' ∉ found.text.toList ↔ isBlankText (Comment.stripScript named) = false) := by
  have hscript : Dialect.ofPath (.ofString "a.brs") = .script := by decide +kernel
  have hrun : ((inspectText ⟨[stopRule], none⟩ (.ofString "a.brs")
      "x\n  STOP\n".toList).toOption.map fun result => result.warnings.map fun warned =>
        (warned.line, warned.found)) = some [(1, some ⟨"  STOP", [], 2, 8⟩)] := by decide +kernel
  obtain ⟨result, warned, hresult, hmem, hseen⟩ :=
    exists_warning_of_seen hrun List.mem_cons_self
  obtain ⟨hline, hfound⟩ := Prod.mk.inj hseen
  have hrule : StatementRule warned.rule ["stop"] := by
    obtain ⟨rule, hrule, _, _, _, _, _, _, rfl⟩ := warns_of_found hresult hmem hfound
    rw [List.mem_singleton.mp hrule]
    exact .stop
  exact ⟨result, warned, hscript, hresult, hmem, hrule, hline, hfound,
    statement_warning_line hscript hresult hmem hrule⟩

/-- A blank line above a statement whose own line holds the directive: there is a warning all the
same. It names the blank line, where its match starts. -/
theorem statement_warning_above_directive :
    ∃ result warned found,
      inspectText ⟨builtInRules, none⟩ (.ofString "a.brs") "\nstop ' ignore-warning\n".toList =
        .ok result ∧ warned ∈ result.warnings ∧ warned.rule.id? = some "stop-statement" ∧
      warned.line = 0 ∧ warned.found = some found ∧ '\n' ∈ found.text.toList ∧
      splitLines "\nstop ' ignore-warning\n".toList =
        ["\n".toList, "stop ' ignore-warning\n".toList] ∧
      Suppression.isDirective "stop ' ignore-warning\n".toList = true := by
  have hrun : ((inspectText ⟨builtInRules, none⟩ (.ofString "a.brs")
      "\nstop ' ignore-warning\n".toList).toOption.map fun result => result.warnings.map
        fun warned => (warned.rule.id?, warned.line, warned.found)) =
      some [(some "stop-statement", 0, some ⟨"\nstop", [], 0, 5⟩)] := by decide +kernel
  obtain ⟨result, warned, hresult, hmem, hseen⟩ :=
    exists_warning_of_seen hrun List.mem_cons_self
  obtain ⟨hid, hseen⟩ := Prod.mk.inj hseen
  obtain ⟨hline, hfound⟩ := Prod.mk.inj hseen
  exact ⟨result, warned, _, hresult, hmem, hid, hline, hfound, by decide +kernel,
    by decide +kernel, by decide +kernel⟩

end Inspection

end ChannelLint
