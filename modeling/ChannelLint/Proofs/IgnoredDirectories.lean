import ChannelLint.Ignore
import ChannelLint.Proofs.PathTexts

/-!
# Ignored directories

A pattern that ends with a slash is compared with the text of a path. It ignores what is below the
directory of its names and nothing else, although texts are compared and not names:
`directory_patterns_ignore_below`. The pattern may be written with blanks around it, with a dot and a
slash in front and with backslashes for slashes (`IsDirectoryPattern`).
-/

namespace ChannelLint

/-! ## Trimming -/

namespace Text

/-- Of blanks in front of a text that starts with none, the text is left. -/
theorem drop_blanks {blanks text : List Char} (hblanks : isBlankText blanks = true)
    (hstart : ∀ c ∈ text.head?, isBlank c = false) : (blanks ++ text).dropWhile isBlank = text := by
  rw [List.dropWhile_append_of_pos (List.all_eq_true.mp hblanks)]
  cases text with
  | nil => rfl
  | cons c rest => exact List.dropWhile_cons_of_neg (by simp [hstart c rfl])

/-- Blanks around a text that neither starts nor ends with a blank are trimmed. -/
theorem trim_blanks {before text after : List Char} (hbefore : isBlankText before = true)
    (hafter : isBlankText after = true) (htext : text ≠ [])
    (hstart : ∀ c ∈ text.head?, isBlank c = false)
    (hend : ∀ c ∈ text.getLast?, isBlank c = false) : trim (before ++ text ++ after) = text := by
  have hbegin : trimStart (before ++ text ++ after) = text ++ after := by
    rw [List.append_assoc]
    refine drop_blanks hbefore ?_
    obtain ⟨c, rest, rfl⟩ := List.exists_cons_of_ne_nil htext
    exact hstart
  have hback : isBlankText after.reverse = true := by rwa [isBlankText, List.all_reverse]
  rw [trim, hbegin, trimEnd, dropEndWhile, List.reverse_append,
    drop_blanks hback (by rwa [List.head?_reverse]), List.reverse_reverse]

/-- Of a blank text nothing is left. -/
theorem trim_blank {text : List Char} (h : isBlankText text = true) : trim text = [] := by
  have hstart : trimStart text = [] := by
    rw [trimStart, ← List.append_nil text]
    exact drop_blanks h nofun
  rw [trim, hstart]
  rfl

end Text

namespace Ignore

/-! ## Patterns for directories -/

/-- A text with slashes for its backslashes. -/
def slashed (text : List Char) : List Char :=
  text.map fun c => if c == '\\' then '/' else c

/-- The names can be written as a pattern for a directory. -/
structure NamesDirectory (names : List String) : Prop where
  filled : names ≠ []
  moves : ∀ name ∈ names, name ≠ "."
  unbroken : ∀ name ∈ names, '/' ∉ name.toList ∧ '\\' ∉ name.toList
  /-- Nothing would be trimmed in front. -/
  starts : ∀ c ∈ (Path.joined names).head?, Text.isBlank c = false

/-- The text is a pattern for the directory of the given names: the names with a slash behind each,
where backslashes may stand for slashes, a dot and a slash in front, and blanks around. -/
def IsDirectoryPattern (names : List String) (text : String) : Prop :=
  ∃ before written after dot : List Char, text.toList = before ++ written ++ after ∧
    Text.isBlankText before = true ∧ Text.isBlankText after = true ∧
    (dot = [] ∨ dot = ['.', '/']) ∧ slashed written = dot ++ Path.joined names ++ ['/']

/-- What is no blank with slashes for backslashes is none without. -/
theorem not_blank_of_slashed {c : Char}
    (h : Text.isBlank (if c == '\\' then '/' else c) = false) : Text.isBlank c = false := by
  split at h
  case isTrue hback => rw [beq_iff_eq.mp hback]; decide
  case isFalse => exact h

/-- Of blanks around what is written, the written is left, if there are no blanks at the start and at
the end of what is read. -/
theorem trim_written {before written after : List Char} (hbefore : Text.isBlankText before = true)
    (hafter : Text.isBlankText after = true) (hwritten : slashed written ≠ [])
    (hstart : ∀ c ∈ (slashed written).head?, Text.isBlank c = false)
    (hend : ∀ c ∈ (slashed written).getLast?, Text.isBlank c = false) :
    Text.trim (before ++ written ++ after) = written := by
  have hnil : written ≠ [] := fun hnil => hwritten (by rw [hnil]; rfl)
  refine Text.trim_blanks hbefore hafter hnil ?_ ?_
  · intro c hc
    refine not_blank_of_slashed (hstart _ ?_)
    rw [slashed, List.head?_map]
    exact Option.mem_map_of_mem _ hc
  · intro c hc
    refine not_blank_of_slashed (hend _ ?_)
    rw [slashed, List.getLast?_map]
    exact Option.mem_map_of_mem _ hc

section Named

variable {names : List String} {text : String}

/-- The joined names and the slash behind them do not start with a dot and a slash. -/
theorem NamesDirectory.not_dotted (h : NamesDirectory names) (rest : List Char) :
    Path.joined names ++ ['/'] ≠ '.' :: '/' :: rest := by
  intro heq
  have hpieces : Path.pieces (Path.joined names ++ '/' :: []) = Path.pieces (['.'] ++ '/' :: rest) :=
    congrArg Path.pieces heq
  rw [Path.pieces_append_slash, Path.pieces_append_slash,
    Path.pieces_joined h.filled fun name hname => (h.unbroken name hname).1] at hpieces
  obtain ⟨name, others, rfl⟩ := List.exists_cons_of_ne_nil h.filled
  have hname : name.toList = ['.'] := (List.cons.inj hpieces).1
  exact h.moves name List.mem_cons_self (String.toList_inj.mp hname)

/-- What is read of a pattern for a directory starts with no blank. -/
theorem NamesDirectory.start_not_blank (h : NamesDirectory names) {dot : List Char}
    (hdot : dot = [] ∨ dot = ['.', '/']) :
    ∀ c ∈ (dot ++ Path.joined names ++ ['/']).head?, Text.isBlank c = false := by
  intro c hc
  rcases hdot with rfl | rfl
  · cases hjoined : Path.joined names with
    | nil =>
        rw [hjoined] at hc
        cases hc
        decide
    | cons first rest =>
        rw [hjoined] at hc
        exact h.starts c (by rw [hjoined]; exact hc)
  · cases hc
    decide

/-- However it is written, a pattern for a directory is compared as the names with a slash behind
each. -/
theorem IsDirectoryPattern.normal (h : IsDirectoryPattern names text)
    (hnames : NamesDirectory names) :
    isBlankPattern text = false ∧ normalPattern text = Path.joined names ++ ['/'] := by
  obtain ⟨before, written, after, dot, htext, hbefore, hafter, hdot, hwritten⟩ := h
  have hfilled : slashed written ≠ [] := by
    rw [hwritten]
    exact List.concat_ne_nil _ _
  have hstart : ∀ c ∈ (slashed written).head?, Text.isBlank c = false := by
    rw [hwritten]
    exact hnames.start_not_blank hdot
  have hend : ∀ c ∈ (slashed written).getLast?, Text.isBlank c = false := by
    intro c hc
    rw [hwritten, List.getLast?_concat] at hc
    cases hc
    decide
  have htrim : Text.trim text.toList = written := by
    rw [htext]
    exact trim_written hbefore hafter hfilled hstart hend
  constructor
  · cases hblank : isBlankPattern text with
    | false => rfl
    | true =>
        rw [Text.trim_blank hblank] at htrim
        subst htrim
        exact absurd rfl hfilled
  · have hread : (written.map fun c => if c == '\\' then '/' else c) =
        dot ++ Path.joined names ++ ['/'] := hwritten
    unfold normalPattern
    rw [htrim, hread]
    rcases hdot with rfl | rfl
    · -- The first name is no dot, so the pattern loses nothing at its start.
      dsimp only
      split
      case h_1 rest heq => exact absurd heq (hnames.not_dotted rest)
      case h_2 => rfl
    · rfl

/-- A pattern for a directory ignores the names that go on from those of the directory. -/
theorem IsDirectoryPattern.matches_iff (h : IsDirectoryPattern names text)
    (hnames : NamesDirectory names) {relative : List String}
    (hrelative : ∀ name ∈ relative, '/' ∉ name.toList) :
    matchesPattern relative text = true ↔ names <+: relative ∧ names ≠ relative := by
  obtain ⟨hblank, hnormal⟩ := h.normal hnames
  have hlast : ((Path.joined names ++ ['/']).getLast? == some '/') = true := by
    rw [List.getLast?_concat, beq_self_eq_true]
  simp only [matchesPattern, hblank, hnormal, hlast, Bool.false_eq_true, if_false, if_true,
    List.isPrefixOf_iff_prefix]
  by_cases hempty : relative = []
  case pos =>
      -- The file is the root itself, whose path from the root is written as a dot.
      subst hempty
      have htext : (Path.toString ⟨0, []⟩).toList = ['.'] := rfl
      rw [htext, List.prefix_nil]
      refine ⟨fun hdot => ?_, fun hnone => absurd hnone.1 hnames.filled⟩
      have hmem : '/' ∈ ['.'] := hdot.subset (List.mem_append_right _ List.mem_cons_self)
      exact absurd hmem (by decide)
  case neg =>
      have htext : (Path.toString ⟨0, relative⟩).toList = Path.joined relative :=
        Path.to_string_eq (.inr hempty)
      rw [htext]
      exact Path.joined_slash_initial_iff hnames.filled
        (fun name hname => (hnames.unbroken name hname).1) hrelative

end Named

section Ignored

variable {cwd : Location} {root path : Path}

/-- A path is ignored exactly if it and the root have locations, it lies at or below the root and one
of the patterns matches its names from there. -/
theorem is_path_ignored_iff {patterns : List String} :
    isPathIgnored cwd root patterns path = true ↔
      path.hasNull = false ∧ root.hasNull = false ∧
        ∃ relative, path.resolveFrom cwd = root.resolveFrom cwd ++ relative ∧
          ∃ pattern ∈ patterns, matchesPattern relative pattern = true := by
  have hignored : isIgnored (root.resolveFrom cwd) patterns (path.resolveFrom cwd) = true ↔
      ∃ relative, path.resolveFrom cwd = root.resolveFrom cwd ++ relative ∧
        ∃ pattern ∈ patterns, matchesPattern relative pattern = true := by
    simp only [← Location.relative_to_eq_some_iff, isIgnored]
    cases Location.relativeTo? (root.resolveFrom cwd) (path.resolveFrom cwd) <;> simp
  rw [isPathIgnored, ← hignored]
  cases path.hasNull <;> cases root.hasNull <;> simp

end Ignored

/-- With a single pattern for a directory below the root, a path is ignored exactly if it leads below
that directory; with several patterns, if it is with one of them; and never if it leads out of the
root. -/
theorem directory_patterns_ignore_below {cwd : Location} (hcwd : ∀ name ∈ cwd, IsName name)
    (root path : String) :
    (∀ (names : List String) (pattern : String), NamesDirectory names →
      IsDirectoryPattern names pattern →
      (isPathIgnored cwd (.ofString root) [pattern] (.ofString path) = true ↔
        (Path.ofString path).hasNull = false ∧ (Path.ofString root).hasNull = false ∧
          ∃ relative, (Path.ofString path).resolveFrom cwd =
            (Path.ofString root).resolveFrom cwd ++ relative ∧
              names <+: relative ∧ names ≠ relative)) ∧
      (∀ patterns : List String,
        isPathIgnored cwd (.ofString root) patterns (.ofString path) =
          patterns.any fun pattern =>
            isPathIgnored cwd (.ofString root) [pattern] (.ofString path)) ∧
      ∀ patterns : List String,
        ¬ (Path.ofString root).resolveFrom cwd <+: (Path.ofString path).resolveFrom cwd →
        isPathIgnored cwd (.ofString root) patterns (.ofString path) = false := by
  refine ⟨fun names pattern hnames hpattern => ?_, fun patterns => ?_, fun patterns hout => ?_⟩
  · rw [is_path_ignored_iff]
    refine and_congr_right' (and_congr_right' (exists_congr fun relative => ?_))
    refine and_congr_right fun hlocation => ?_
    have hrelative : ∀ name ∈ relative, '/' ∉ name.toList := fun name hname =>
      (Path.resolve_names (Path.of_string_proper path) (.inr hcwd) name
        (hlocation ▸ List.mem_append_right _ hname)).unbroken
    simp only [List.mem_singleton, exists_eq_left]
    exact hpattern.matches_iff hnames hrelative
  · rw [Bool.eq_iff_iff]
    simp only [List.any_eq_true, is_path_ignored_iff, List.mem_singleton, exists_eq_left]
    constructor
    · rintro ⟨hpath, hroot, relative, hlocation, pattern, hpattern, hmatches⟩
      exact ⟨pattern, hpattern, hpath, hroot, relative, hlocation, hmatches⟩
    · rintro ⟨pattern, hpattern, hpath, hroot, relative, hlocation, hmatches⟩
      exact ⟨hpath, hroot, relative, hlocation, pattern, hpattern, hmatches⟩
  · refine Bool.eq_false_iff.mpr fun hignored => hout ?_
    obtain ⟨-, -, relative, hlocation, -⟩ := is_path_ignored_iff.mp hignored
    exact hlocation ▸ List.prefix_append _ _

/-- A directory whose names hold characters that mean something in other patterns; the pattern is
written with a blank at each end, a dot in front and backslashes. -/
theorem directory_patterns_ignore_below_spelled :
    (∀ name ∈ ["work"], IsName name) ∧ NamesDirectory ["[a]*", "x"] ∧
      IsDirectoryPattern ["[a]*", "x"] "\t.\\[a]*\\x/ " ∧
      isPathIgnored ["work"] (.ofString "app/.") ["\t.\\[a]*\\x/ "]
        (.ofString "app//lib/../[a]*/x/main.brs") = true ∧
      isPathIgnored ["work"] (.ofString "app/.") ["\t.\\[a]*\\x/ "]
        (.ofString "/work/app/[a]*/x2/main.brs") = false ∧
      isPathIgnored ["work"] (.ofString "app/.") ["\t.\\[a]*\\x/ "]
        (.ofString "/work/app/aa/x/main.brs") = false ∧
      isPathIgnored ["work"] (.ofString "app/.") ["\t.\\[a]*\\x/ "]
        (.ofString "app/b/[a]*/x/main.brs") = false ∧
      isPathIgnored ["work"] (.ofString "app/.") ["*", "app/"]
        (.ofString "app/../main.brs") = false := by
  have hcwd : ∀ name ∈ ["work"], IsName name :=
    List.forall_mem_singleton.mpr ⟨⟨by decide, by decide, by decide⟩, by decide⟩
  have hstart : ∀ c ∈ (Path.joined ["[a]*", "x"]).head?, Text.isBlank c = false := by
    intro c hc
    obtain rfl : '[' = c := Option.some.inj hc
    decide
  have hnames : NamesDirectory ["[a]*", "x"] := ⟨by decide, by decide, by decide, hstart⟩
  have hpattern : IsDirectoryPattern ["[a]*", "x"] "\t.\\[a]*\\x/ " :=
    ⟨['\t'], ".\\[a]*\\x/".toList, [' '], ['.', '/'], by decide, by decide, by decide, .inr rfl,
      by decide⟩
  have hbelow := fun path =>
    (directory_patterns_ignore_below hcwd "app/." path).1 _ _ hnames hpattern
  have hbeside : ∀ path relative, (Path.ofString path).resolveFrom ["work"] =
      (Path.ofString "app/.").resolveFrom ["work"] ++ relative → ¬ ["[a]*", "x"] <+: relative →
      isPathIgnored ["work"] (.ofString "app/.") ["\t.\\[a]*\\x/ "] (.ofString path) = false := by
    intro path relative hlocation hnot
    refine Bool.eq_false_iff.mpr fun hignored => ?_
    obtain ⟨-, -, other, hother, hinitial, -⟩ := (hbelow path).mp hignored
    obtain rfl := List.append_cancel_left (hlocation.symm.trans hother)
    exact hnot hinitial
  refine ⟨hcwd, hnames, hpattern, (hbelow _).mpr ⟨by decide, by decide,
      ["[a]*", "x", "main.brs"], by decide, by decide, by decide⟩,
    hbeside _ ["[a]*", "x2", "main.brs"] (by decide) (by decide),
    hbeside _ ["aa", "x", "main.brs"] (by decide) (by decide),
    hbeside _ ["b", "[a]*", "x", "main.brs"] (by decide) (by decide), ?_⟩
  exact (directory_patterns_ignore_below hcwd "app/." "app/../main.brs").2.2 _ (by decide)

end Ignore

end ChannelLint
