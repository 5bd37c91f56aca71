import ChannelLint.Path

/-!
# Paths and their texts

A path that a text spells has components that are not empty, are no single dot and hold no slash
(`Path.IsProper`), so nothing is lost when it is written and read again: `Path.of_string_to_string`.
When it is resolved, it becomes a location of names that are no double dots either
(`Path.resolve_names`). Names below a location can be joined to its paths and lead to the same place
(`Path.resolve_join`).
-/

namespace ChannelLint

/-! ## Components -/

/-- The name can be a component of a path. -/
structure IsComponent (name : String) : Prop where
  filled : name ≠ ""
  moves : name ≠ "."
  unbroken : '/' ∉ name.toList

/-- The name can be that of a file or directory. -/
structure IsName (name : String) : Prop extends IsComponent name where
  descends : name ≠ ".."

namespace Path

/-! ## Joined names -/

/-- Names with slashes between them. -/
def joined (names : List String) : List Char :=
  ['/'].intercalate (names.map String.toList)

/-- A name stands before the others with a slash behind it. -/
theorem joined_cons (name : String) {rest : List String} (h : rest ≠ []) :
    joined (name :: rest) = name.toList ++ '/' :: joined rest := by
  obtain ⟨next, others, rfl⟩ := List.exists_cons_of_ne_nil h
  simp [joined, List.intercalate_cons_cons]

/-- Joined names in a row have a slash between them. -/
theorem joined_append {first second : List String} (hfirst : first ≠ []) (hsecond : second ≠ []) :
    joined (first ++ second) = joined first ++ '/' :: joined second := by
  induction first with
  | nil => exact absurd rfl hfirst
  | cons name first ih =>
      cases first with
      | nil => rw [List.singleton_append, joined_cons name hsecond]; simp [joined]
      | cons next rest =>
          have hrest : next :: rest ++ second ≠ [] := List.cons_ne_nil _ _
          rw [List.cons_append, joined_cons name hrest, ih (List.cons_ne_nil next rest),
            joined_cons name (List.cons_ne_nil next rest), List.append_assoc, List.cons_append]

/-- The pieces of a text are what it is split into at slashes. -/
theorem pieces_eq_split_on (text : List Char) : pieces text = text.splitOn '/' := by
  induction text with
  | nil => rfl
  | cons c rest ih =>
      rw [pieces, ih, List.splitOn_cons_eq_if_modifyHead]
      split
      · rfl
      · cases hpieces : rest.splitOn '/' with
        | nil => exact absurd hpieces (List.splitOn_ne_nil _ rest)
        | cons piece more => rfl

/-- No piece holds a slash. -/
theorem slash_not_mem_piece {text piece : List Char} (h : piece ∈ pieces text) : '/' ∉ piece := by
  fun_induction pieces text generalizing piece with
  | case1 => simp_all
  | case2 c rest hslash ih =>
      rcases List.mem_cons.mp h with rfl | h
      · exact List.not_mem_nil
      · exact ih h
  | case3 c rest hslash hnil ih =>
      rw [pieces_eq_split_on] at hnil
      exact absurd hnil (List.splitOn_ne_nil _ rest)
  | case4 c rest hslash first more hpieces ih =>
      rw [hpieces] at ih
      rcases List.mem_cons.mp h with rfl | h
      · have hc : c ≠ '/' := by simpa using hslash
        simp [Ne.symm hc, ih List.mem_cons_self]
      · exact ih (List.mem_cons_of_mem _ h)

/-- Names without slashes are the pieces of their joined text. -/
theorem pieces_joined {names : List String} (hnil : names ≠ [])
    (h : ∀ name ∈ names, '/' ∉ name.toList) : pieces (joined names) = names.map String.toList := by
  rw [pieces_eq_split_on]
  exact List.splitOn_intercalate '/' (List.forall_mem_map.mpr h) (by simpa using hnil)

/-- The pieces of a text on both sides of a slash. -/
theorem pieces_append_slash (first second : List Char) :
    pieces (first ++ '/' :: second) = pieces first ++ pieces second := by
  simp only [pieces_eq_split_on, List.splitOn_append_cons_self]

/-- A joined text with a slash behind it stands in front of another exactly if its names stand in
front of the others and are not all of them. -/
theorem joined_slash_initial_iff {first names : List String} (hfirst : first ≠ [])
    (hslash : ∀ name ∈ first, '/' ∉ name.toList) (hnames : ∀ name ∈ names, '/' ∉ name.toList) :
    joined first ++ ['/'] <+: joined names ↔ first <+: names ∧ first ≠ names := by
  constructor
  · rintro ⟨behind, heq⟩
    rw [List.append_assoc, List.singleton_append] at heq
    have hnil : names ≠ [] := by
      rintro rfl
      simp [joined] at heq
    have hpieces : names.map String.toList = first.map String.toList ++ pieces behind := by
      rw [← pieces_joined hnil hnames, ← heq, pieces_append_slash, pieces_joined hfirst hslash]
    obtain ⟨front, rest, rfl, hfront, hrest⟩ := List.map_eq_append_iff.mp hpieces
    obtain rfl := (List.map_inj_right fun _ _ => String.toList_inj.mp).mp hfront
    refine ⟨List.prefix_append _ _, fun hall => ?_⟩
    obtain rfl := List.self_eq_append_right.mp hall
    rw [pieces_eq_split_on] at hrest
    exact List.splitOn_ne_nil _ _ hrest.symm
  · rintro ⟨⟨rest, rfl⟩, hall⟩
    have hrest : rest ≠ [] := fun hrest => hall (by rw [hrest, List.append_nil])
    exact ⟨joined rest, by rw [joined_append hfirst hrest]; simp⟩

/-! ## Writing and reading -/

/-- The path is one that a text spells. -/
structure IsProper (path : Path) : Prop where
  front : path.slashes ≤ 2
  components : ∀ part ∈ path.parts, IsComponent part

/-- A path that a text spells is proper. -/
theorem of_string_proper (text : String) : (ofString text).IsProper where
  front := by
    unfold ofString
    dsimp only
    split <;> omega
  components := by
    intro part hpart
    obtain ⟨hpiece, hkept⟩ := List.mem_filter.mp hpart
    obtain ⟨piece, hmem, rfl⟩ := List.mem_map.mp hpiece
    simp only [bne_iff_ne, ne_eq, Bool.and_eq_true] at hkept
    exact ⟨hkept.1, hkept.2, by simpa using slash_not_mem_piece hmem⟩

/-- The text of a path is its slashes and its joined components; the empty relative path is a dot. -/
theorem to_string_eq {path : Path} (h : path.slashes ≠ 0 ∨ path.parts ≠ []) :
    path.toString.toList = List.replicate path.slashes '/' ++ joined path.parts := by
  have hnot : (path.slashes == 0 && path.parts.isEmpty) = false := by
    rw [Bool.and_eq_false_iff]
    exact h.imp (fun h => by simpa using h) (fun h => by simpa using h)
  rw [toString, hnot]
  simp [String.toList_intercalate, joined]

/-- The pieces of a text behind slashes. -/
theorem pieces_slashes (count : Nat) (text : List Char) :
    pieces (List.replicate count '/' ++ text) = List.replicate count [] ++ pieces text := by
  induction count with
  | zero => rfl
  | succ count ih => simp [List.replicate_succ, pieces, ih]

/-- Joined names start with the first of them. -/
theorem first_initial_joined (name : String) (rest : List String) :
    name.toList <+: joined (name :: rest) := by
  cases rest with
  | nil => simp [joined]
  | cons next others =>
      rw [joined_cons name (List.cons_ne_nil next others)]
      exact List.prefix_append _ _

/-- Joined components do not start with a slash. -/
theorem joined_no_slash {parts : List String} (h : ∀ part ∈ parts, IsComponent part) :
    (joined parts).takeWhile (· == '/') = [] := by
  cases parts with
  | nil => rfl
  | cons part rest =>
      have hpart := h part List.mem_cons_self
      obtain ⟨behind, hbehind⟩ := first_initial_joined part rest
      cases hchars : part.toList with
      | nil => exact absurd (String.toList_eq_nil_iff.mp hchars) hpart.filled
      | cons c chars =>
          have hc : c ≠ '/' := by
            rintro rfl
            exact hpart.unbroken (hchars ▸ List.mem_cons_self)
          rw [← hbehind, hchars, List.cons_append, List.takeWhile_cons_of_neg (by simpa using hc)]

/-- Of the pieces of joined components behind slashes, the components are left. -/
theorem filter_pieces (count : Nat) {parts : List String} (h : ∀ part ∈ parts, IsComponent part) :
    ((pieces (List.replicate count '/' ++ joined parts)).map String.ofList).filter
      (fun name => name != "" && name != ".") = parts := by
  have hslashes : ((List.replicate count ([] : List Char)).map String.ofList).filter
      (fun name => name != "" && name != ".") = [] := by
    simp
  rw [pieces_slashes, List.map_append, List.filter_append, hslashes, List.nil_append]
  by_cases hparts : parts = []
  · subst hparts
    decide
  · have hkept : ∀ part ∈ parts, (part != "" && part != ".") = true := fun part hpart => by
      simp [(h part hpart).filled, (h part hpart).moves]
    rw [pieces_joined hparts fun part hpart => (h part hpart).unbroken, List.map_map]
    simpa using hkept

/-- A proper path is what its text spells. -/
theorem of_string_to_string {path : Path} (h : path.IsProper) : ofString path.toString = path := by
  obtain ⟨slashes, parts⟩ := path
  obtain ⟨hfront, hparts⟩ := h
  by_cases hempty : slashes ≠ 0 ∨ parts ≠ []
  case neg =>
      obtain ⟨rfl, rfl⟩ : slashes = 0 ∧ parts = [] := by simpa [not_or] using hempty
      decide
  have htext : (toString ⟨slashes, parts⟩).toList = List.replicate slashes '/' ++ joined parts :=
    to_string_eq hempty
  dsimp only at hfront hparts
  have hslashes : ((List.replicate slashes '/' ++ joined parts).takeWhile (· == '/')).length =
      slashes := by
    rw [List.takeWhile_append_of_pos (by simp), joined_no_slash hparts]
    simp
  have hfixed : (if slashes == 2 then 2 else min slashes 1) = slashes := by
    split
    case isTrue htwo => exact (beq_iff_eq.mp htwo).symm
    case isFalse htwo =>
        have hne : slashes ≠ 2 := by simpa using htwo
        omega
  unfold ofString
  rw [htext]
  dsimp only
  rw [hslashes, filter_pieces slashes hparts, hfixed]

/-! ## Resolving -/

/-- Names lead down. -/
theorem descend_names {names : List String} (h : ∀ name ∈ names, name ≠ "..")
    (location : Location) : names.foldl descend location = location ++ names := by
  induction names generalizing location with
  | nil => exact (List.append_nil location).symm
  | cons name rest ih =>
      obtain ⟨hname, hrest⟩ := List.forall_mem_cons.mp h
      have hdescend : descend location name = location ++ [name] := if_neg (by simpa using hname)
      rw [List.foldl_cons, hdescend, ih hrest, List.append_assoc, List.singleton_append]

/-- Components lead from names to names. -/
theorem names_of_descend {parts : List String} {location : Location}
    (hparts : ∀ part ∈ parts, IsComponent part) (hnames : ∀ name ∈ location, IsName name) :
    ∀ name ∈ parts.foldl descend location, IsName name := by
  induction parts generalizing location with
  | nil => exact hnames
  | cons part rest ih =>
      obtain ⟨hpart, hrest⟩ := List.forall_mem_cons.mp hparts
      refine ih hrest ?_
      unfold descend
      split
      case isTrue => exact fun name hname => hnames name (List.dropLast_subset _ hname)
      case isFalse hdown =>
          refine List.forall_mem_append.mpr ⟨hnames, List.forall_mem_singleton.mpr ?_⟩
          exact ⟨hpart, by simpa using hdown⟩

/-- A proper path leads to a location of names. -/
theorem resolve_names {path : Path} (h : path.IsProper) {cwd : Location}
    (hcwd : path.isAbsolute = true ∨ ∀ name ∈ cwd, IsName name) :
    ∀ name ∈ path.resolveFrom cwd, IsName name := by
  refine names_of_descend h.components ?_
  split
  case isTrue => exact nofun
  case isFalse habsolute => exact hcwd.resolve_left habsolute

/-- Names that are joined to a path lead on from its location. -/
theorem resolve_join (root : Path) {names : List String} (h : ∀ name ∈ names, name ≠ "..")
    (cwd : Location) :
    (root.join ⟨0, names⟩).resolveFrom cwd = root.resolveFrom cwd ++ names := by
  show (root.parts ++ names).foldl descend _ = _
  rw [List.foldl_append, descend_names h]
  rfl

end Path

/-- Names lead down from one location to another if the one with the names behind it is the other. -/
theorem Location.relative_to_eq_some_iff {root location : Location} {names : List String} :
    relativeTo? root location = some names ↔ location = root ++ names := by
  unfold relativeTo?
  dsimp only
  split
  case isTrue hinitial =>
      obtain ⟨behind, rfl⟩ := List.isPrefixOf_iff_prefix.mp hinitial
      simp [eq_comm]
  case isFalse hinitial =>
      refine ⟨nofun, ?_⟩
      rintro rfl
      exact absurd (List.isPrefixOf_iff_prefix.mpr (List.prefix_append root names)) hinitial

end ChannelLint
