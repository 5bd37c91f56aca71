import ChannelLint.Lint
import ChannelLint.Snapshot
import Mathlib.Data.List.Lex
import Mathlib.Data.List.Sort
import Mathlib.Data.String.Basic

/-!
# Discovered files

Which files a run looks at. A directory is walked from the top, and some directories are not
entered; `FileTree.mem_files_in` says without the walk which files it meets, by the names that lead
to a file. The main theorem, `Lint.discover_exact`, says the same of the files of a target: they are
those that satisfy `Lint.IsDiscovered`, in strict order of their names, and the order in which
directories list their entries does not matter. It asks for distinct names in every directory, which
is what every snapshot has (`Snapshot.to_tree_distinct`).
-/

namespace ChannelLint

/-! ## Order and repetitions -/

/-- Locations are ordered name by name. -/
theorem Location.le_iff (a b : Location) : le a b = true ↔ a ≤ b := by
  rw [le_iff_lt_or_eq]
  fun_induction le a b with
  | case1 b => cases b <;> simp
  | case2 a as => simp
  | case3 a as b bs heq ih =>
      obtain rfl : a = b := by simpa using heq
      simpa [List.cons_lt_cons_iff] using ih
  | case4 a as b bs hne =>
      have hne : a ≠ b := by simpa using hne
      simp [List.cons_lt_cons_iff, hne]

/-- What is left after repetitions are dropped has none. -/
theorem nodup_erase_dups {α : Type} [BEq α] [LawfulBEq α] (items : List α) :
    items.eraseDups.Nodup := by
  match items with
  | [] => simp
  | item :: rest =>
      rw [List.eraseDups_cons, List.nodup_cons]
      refine ⟨?_, nodup_erase_dups _⟩
      simp
termination_by items.length
decreasing_by
  exact Nat.lt_succ_of_le (List.length_filter_le _ _)

namespace FileTree

/-! ## Entries of directories -/

/-- The names in every directory of the tree are distinct. -/
inductive Distinct : FileTree → Prop
  | file (bytes : List UInt8) : Distinct (file bytes)
  | directory {all : List (String × FileTree)} :
      (all.map Prod.fst).Nodup → (∀ entry ∈ all, Distinct entry.2) → Distinct (directory all)

/-- Distinct names name the entries that a directory holds. -/
theorem child?_eq_some_iff {all : List (String × FileTree)} (h : (all.map Prod.fst).Nodup)
    {name : String} {tree : FileTree} : child? name all = some tree ↔ (name, tree) ∈ all := by
  induction all with
  | nil => simp [child?]
  | cons entry rest ih =>
      obtain ⟨hhead, hrest⟩ := List.nodup_cons.mp h
      rw [child?]
      split
      case isTrue heq =>
          obtain rfl : entry.1 = name := by simpa using heq
          have hnot : (entry.1, tree) ∉ rest := fun hmem => hhead (List.mem_map.mpr ⟨_, hmem, rfl⟩)
          simp only [Option.some.injEq, List.mem_cons, hnot, or_false]
          exact ⟨fun h => h ▸ rfl, fun h => congrArg Prod.snd h.symm⟩
      case isFalse hne =>
          have hne : (name, tree) ≠ entry := fun h => hne (by simp [← h])
          simp [ih hrest, hne]

/-- An entry is looked for in the front of a list first. -/
theorem child?_append (name : String) (front back : List (String × FileTree)) :
    child? name (front ++ back) = (child? name front).or (child? name back) := by
  induction front with
  | nil => rfl
  | cons entry front ih =>
      simp only [List.cons_append, child?]
      split
      · rfl
      · exact ih

/-- A tree is found in stages. -/
theorem get?_append (first second : Location) (tree : FileTree) :
    get? (first ++ second) tree = (get? first tree).bind (get? second) := by
  induction first generalizing tree with
  | nil => rfl
  | cons name first ih =>
      simp only [List.cons_append, get?]
      cases child? name tree.entries with
      | none => rfl
      | some below => exact ih below

/-- An empty directory has no names. -/
theorem Distinct.empty : (FileTree.directory []).Distinct :=
  .directory (by simp) (by simp)

/-- The entries of a tree with distinct names. -/
theorem Distinct.entries {tree : FileTree} (h : tree.Distinct) :
    (tree.entries.map Prod.fst).Nodup ∧ ∀ entry ∈ tree.entries, entry.2.Distinct := by
  cases h with
  | file bytes => simp [FileTree.entries]
  | directory hnames hall => exact ⟨hnames, hall⟩

/-- The tree at a location of a tree with distinct names. -/
theorem Distinct.get? {tree below : FileTree} {location : Location} (h : tree.Distinct)
    (hbelow : tree.get? location = some below) : below.Distinct := by
  induction location generalizing tree with
  | nil =>
      obtain rfl : tree = below := Option.some.inj hbelow
      exact h
  | cons name rest ih =>
      rw [FileTree.get?] at hbelow
      split at hbelow
      case h_2 => cases hbelow
      case h_1 child hchild =>
          obtain ⟨hnames, hall⟩ := h.entries
          exact ih (hall _ ((child?_eq_some_iff hnames).mp hchild)) hbelow

/-- An entry is put under its name or at the end. -/
theorem put_child_names (name : String) (tree : FileTree) (all : List (String × FileTree)) :
    (putChild name tree all).map Prod.fst =
      if name ∈ all.map Prod.fst then all.map Prod.fst else all.map Prod.fst ++ [name] := by
  induction all with
  | nil => rfl
  | cons entry rest ih =>
      rw [putChild]
      split
      case isTrue heq =>
          obtain rfl : entry.1 = name := by simpa using heq
          simp
      case isFalse hne =>
          have hne : name ≠ entry.1 := fun h => hne (by simp [h])
          simp only [List.map_cons, ih, List.mem_cons, hne, false_or]
          split <;> rfl

/-- Nothing but the new entry is put into a directory. -/
theorem mem_put_child {name : String} {tree : FileTree} {all : List (String × FileTree)}
    {entry : String × FileTree} (h : entry ∈ putChild name tree all) :
    entry.2 = tree ∨ entry ∈ all := by
  induction all with
  | nil =>
      obtain rfl : entry = (name, tree) := by simpa [putChild] using h
      exact .inl rfl
  | cons head rest ih =>
      rw [putChild] at h
      split at h
      · rcases List.mem_cons.mp h with rfl | h
        · exact .inl rfl
        · exact .inr (List.mem_cons_of_mem _ h)
      · rcases List.mem_cons.mp h with rfl | h
        · exact .inr List.mem_cons_self
        · exact (ih h).imp_right (List.mem_cons_of_mem _)

/-- Putting something into a tree keeps names distinct. -/
theorem Distinct.insert {leaf tree : FileTree} (hleaf : leaf.Distinct) (h : tree.Distinct)
    (location : Location) : (FileTree.insert leaf location tree).Distinct := by
  induction location generalizing tree with
  | nil =>
      rw [FileTree.insert]
      split
      · exact h
      · exact hleaf
  | cons name rest ih =>
      obtain ⟨hnames, hall⟩ := h.entries
      have hbelow : ((child? name tree.entries).getD (FileTree.directory [])).Distinct := by
        cases hchild : child? name tree.entries with
        | none => exact .empty
        | some below => exact hall _ ((child?_eq_some_iff hnames).mp hchild)
      refine .directory ?_ fun entry hentry => ?_
      · rw [put_child_names]
        split
        · exact hnames
        case isFalse hnew => exact List.nodup_append_comm.mp (List.nodup_cons.mpr ⟨hnew, hnames⟩)
      · rcases mem_put_child hentry with heq | hentry
        · exact heq ▸ ih hbelow
        · exact hall entry hentry

/-- What stands at a location: a directory, a file or nothing. -/
def kindAt? (tree : FileTree) (location : Location) : Option Bool :=
  (tree.get? location).map isDirectory

/-- A file is what is there and is no directory. -/
theorem is_file_at_iff {tree : FileTree} {location : Location} :
    tree.isFileAt location = true ↔ tree.kindAt? location = some false := by
  unfold isFileAt kindAt?
  cases tree.get? location with
  | none => simp
  | some below => cases below <;> simp [isDirectory]

/-- A directory is what is there and is one. -/
theorem is_directory_at_iff {tree : FileTree} {location : Location} :
    tree.isDirectoryAt location = true ↔ tree.kindAt? location = some true := by
  unfold isDirectoryAt kindAt?
  cases tree.get? location with
  | none => simp
  | some below => cases below <;> simp [isDirectory]

/-! ## Walking a tree -/

/-- A file stands at the end of the names, and no directory on the way to it is to be skipped. -/
def IsMet (skip : String → Bool) (tree : FileTree) (names : List String) : Prop :=
  tree.isFileAt names = true ∧ ∀ name ∈ names.dropLast, skip name = false

section Walk

variable (skip : String → Bool)

/-- In a file, only the file itself is met. -/
theorem is_met_file (bytes : List UInt8) (names : List String) :
    IsMet skip (file bytes) names ↔ names = [] := by
  cases names <;> simp [IsMet, isFileAt, FileTree.get?, entries, child?]

/-- A file in an entry of a directory is met from the directory if it is met from the entry, unless
the entry is a directory to skip. -/
theorem is_met_entry {name : String} {tree : FileTree} {rest : List String} :
    (tree.isFileAt rest = true ∧ ∀ part ∈ (name :: rest).dropLast, skip part = false) ↔
      ¬ (tree.isDirectory && skip name) = true ∧ IsMet skip tree rest := by
  cases tree with
  | file bytes =>
      -- the name of a file leads to nothing else, so it may be one to skip
      have hmet := is_met_file skip bytes rest
      cases rest with
      | nil => simp [IsMet, isDirectory]
      | cons part parts => simp_all [IsMet, isDirectory]
  | directory all =>
      cases rest with
      | nil => simp [IsMet, isFileAt, FileTree.get?]
      | cons part parts =>
          simp only [IsMet, isDirectory, List.dropLast_cons_cons, List.forall_mem_cons,
            Bool.true_and, Bool.not_eq_true]
          tauto

/-- In a directory, the files of its entries are met, unless an entry is a directory to skip. -/
theorem is_met_directory {all : List (String × FileTree)} (h : (all.map Prod.fst).Nodup)
    (names : List String) :
    IsMet skip (directory all) names ↔ ∃ entry ∈ all, ∃ rest, names = entry.1 :: rest ∧
      ¬ (entry.2.isDirectory && skip entry.1) = true ∧ IsMet skip entry.2 rest := by
  cases names with
  | nil => simp [IsMet, isFileAt, FileTree.get?]
  | cons name rest =>
      have hfile : (directory all).isFileAt (name :: rest) = true ↔
          ∃ tree, (name, tree) ∈ all ∧ tree.isFileAt rest = true := by
        simp only [← child?_eq_some_iff h, isFileAt, FileTree.get?, entries]
        cases child? name all <;> simp
      rw [IsMet, hfile]
      constructor
      · rintro ⟨⟨tree, hmem, htree⟩, hparts⟩
        exact ⟨(name, tree), hmem, rest, rfl, (is_met_entry skip).mp ⟨htree, hparts⟩⟩
      · rintro ⟨⟨_, tree⟩, hmem, _, heq, hentry⟩
        obtain ⟨rfl, rfl⟩ := List.cons.inj heq
        obtain ⟨htree, hparts⟩ := (is_met_entry skip).mpr hentry
        exact ⟨⟨tree, hmem, htree⟩, hparts⟩

mutual
/-- A walk through a tree with distinct names meets each of the files that are to be met. -/
theorem mem_files_in (here : Location) (tree : FileTree) (h : tree.Distinct)
    {location : Location} :
    location ∈ filesIn skip here tree ↔
      ∃ names, location = here ++ names ∧ IsMet skip tree names := by
  match tree with
  | file bytes => simp [filesIn, is_met_file]
  | directory all =>
      cases h with
      | directory hnames hall =>
          rw [filesIn, mem_files_in_entries here all hall]
          simp only [is_met_directory skip hnames]
          constructor
          · rintro ⟨entry, hmem, rest, heq, hentry⟩
            exact ⟨_, heq, entry, hmem, rest, rfl, hentry⟩
          · rintro ⟨_, heq, entry, hmem, rest, rfl, hentry⟩
            exact ⟨entry, hmem, rest, heq, hentry⟩

/-- A walk through entries meets the files of each entry, unless it is a directory to skip. -/
theorem mem_files_in_entries (here : Location) (entries : List (String × FileTree))
    (h : ∀ entry ∈ entries, entry.2.Distinct) {location : Location} :
    location ∈ filesInEntries skip here entries ↔ ∃ entry ∈ entries, ∃ rest,
      location = here ++ entry.1 :: rest ∧
        ¬ (entry.2.isDirectory && skip entry.1) = true ∧ IsMet skip entry.2 rest := by
  match entries with
  | [] => simp [filesInEntries]
  | (name, tree) :: others =>
      obtain ⟨htree, hothers⟩ := List.forall_mem_cons.mp h
      rw [filesInEntries, List.mem_append, mem_files_in_entries here others hothers]
      simp only [List.exists_mem_cons_iff]
      refine or_congr_left ?_
      split
      case isTrue hskip => simp [hskip]
      case isFalse hskip => simp [mem_files_in (here ++ [name]) tree htree, hskip]
end

end Walk

/-! ## Listing orders -/

/-- The trees hold the same, with the entries of directories listed in any order. -/
inductive Relisted : FileTree → FileTree → Prop
  | refl (tree : FileTree) : Relisted tree tree
  | reorder {all others : List (String × FileTree)} :
      all.Perm others → Relisted (directory all) (directory others)
  | inside {tree other : FileTree} (before : List (String × FileTree)) (name : String)
      (after : List (String × FileTree)) : Relisted tree other →
      Relisted (directory (before ++ (name, tree) :: after))
        (directory (before ++ (name, other) :: after))
  | trans {first second third : FileTree} :
      Relisted first second → Relisted second third → Relisted first third

namespace Relisted

/-- Names stay distinct in any order. -/
theorem distinct {tree other : FileTree} (h : Relisted tree other) (hdistinct : tree.Distinct) :
    other.Distinct := by
  induction h with
  | refl tree => exact hdistinct
  | reorder hperm =>
      cases hdistinct with
      | directory hnames hall =>
          exact .directory ((hperm.map Prod.fst).nodup_iff.mp hnames)
            fun entry hentry => hall entry (hperm.mem_iff.mpr hentry)
  | inside before name after hbelow ih =>
      cases hdistinct with
      | directory hnames hall =>
          refine .directory (by simpa using hnames) ?_
          simp only [List.forall_mem_append, List.forall_mem_cons] at hall ⊢
          exact ⟨hall.1, ih hall.2.1, hall.2.2⟩
  | trans hfirst hsecond ihfirst ihsecond => exact ihsecond (ihfirst hdistinct)

/-- At every location stands the same kind of thing in any order. -/
theorem kind_at {tree other : FileTree} (h : Relisted tree other) (hdistinct : tree.Distinct)
    (location : Location) : other.kindAt? location = tree.kindAt? location := by
  induction h generalizing location with
  | refl tree => rfl
  | reorder hperm =>
      rename_i all others
      -- an entry is found by its name alone, since no other entry has it
      cases location with
      | nil => rfl
      | cons name rest =>
          have hchild : child? name others = child? name all := by
            have hothers := (reorder hperm).distinct hdistinct
            cases hdistinct with
            | directory hnames hall =>
                cases hothers with
                | directory hnames' hall' =>
                    ext tree
                    rw [child?_eq_some_iff hnames, child?_eq_some_iff hnames', hperm.mem_iff]
          simp only [kindAt?, FileTree.get?, entries, hchild]
  | inside before name after hbelow ih =>
      rename_i tree other
      cases hdistinct with
      | directory hnames hall =>
          have htree : tree.Distinct := hall (name, tree) (by simp)
          cases location with
          | nil => rfl
          | cons part rest =>
              simp only [kindAt?, FileTree.get?, entries, child?_append, child?]
              cases child? part before with
              | some first => rfl
              | none =>
                  simp only [Option.none_or]
                  cases name == part with
                  | true => exact ih htree rest
                  | false => rfl
  | trans hfirst hsecond ihfirst ihsecond =>
      exact (ihsecond (hfirst.distinct hdistinct) location).trans (ihfirst hdistinct location)

end Relisted

end FileTree

/-- The names in every directory of a snapshot are distinct. -/
theorem Snapshot.to_tree_distinct (cwd : Location) (snapshot : Table) :
    (toTree cwd snapshot).Distinct := by
  have hadd (tree : FileTree) (entry : String × Value) (h : tree.Distinct) :
      (addEntry cwd tree entry).Distinct := by
    unfold addEntry
    dsimp only
    split
    · exact .insert (.file _) h _
    · exact .insert .empty h _
    · exact h
  unfold toTree
  generalize hstart : FileTree.insert (.directory []) cwd (.directory []) = start
  have hdistinct : start.Distinct := hstart ▸ .insert .empty .empty cwd
  clear hstart
  induction snapshot generalizing start with
  | nil => exact hdistinct
  | cons entry rest ih => exact ih _ (hadd start entry hdistinct)

/-! ## Discovering -/

namespace Lint

/-- The location is that of a file below the directory that is looked at: no directory between the
two has a name to skip, the suffix is one of the configured ones, and the file is not ignored. -/
structure IsDiscovered (tree : FileTree) (target : Target) (location : Location) : Prop where
  file : tree.isFileAt location = true
  below : ∃ names, names ≠ [] ∧ location = target.scan ++ names ∧
    ∀ name ∈ names.dropLast, name ∉ skippedDirectories
  extension : String.ofList (Text.lower (Path.ofLocation location).suffix) ∈
    normalExtensions target.config.extensions
  kept : Ignore.isIgnored target.root target.config.ignored location = false

variable {tree : FileTree} {target : Target}

/-- The files of a target are in strict order. -/
theorem discover_sorted (tree : FileTree) (target : Target) :
    (discover tree target).Pairwise (· < ·) := by
  simp only [discover]
  split
  · exact .nil
  · split
    · exact .nil
    · exact List.pairwise_singleton _ _
  · generalize List.filter _ _ = files
    have hsorted : (files.eraseDups.mergeSort Location.le).Pairwise
        fun a b => Location.le a b = true := by
      refine List.pairwise_mergeSort ?_ ?_ _
      · intro a b c
        simp only [Location.le_iff]
        exact le_trans
      · intro a b
        simp only [Bool.or_eq_true, Location.le_iff]
        exact le_total a b
    have hnodup : (files.eraseDups.mergeSort Location.le).Nodup :=
      (List.mergeSort_perm _ _).nodup_iff.mpr (nodup_erase_dups files)
    exact hsorted.imp₂ (fun a b hle hne => lt_of_le_of_ne ((Location.le_iff a b).mp hle) hne) hnodup

/-- The files of a target that is a file: the file itself, unless it is ignored. -/
theorem discover_file (hscan : tree.isFileAt target.scan = true) :
    discover tree target =
      if Ignore.isIgnored target.root target.config.ignored target.scan then []
      else [target.scan] := by
  unfold FileTree.isFileAt at hscan
  split at hscan
  case h_1 bytes hbytes => simp only [discover, hbytes]
  case h_2 => cases hscan

/-- The files of a target that is a directory. -/
theorem mem_discover (h : tree.Distinct) (hscan : tree.isDirectoryAt target.scan = true)
    {location : Location} :
    location ∈ discover tree target ↔ IsDiscovered tree target location := by
  obtain ⟨all, hall⟩ : ∃ all, tree.get? target.scan = some (.directory all) := by
    unfold FileTree.isDirectoryAt at hscan
    split at hscan
    case h_1 all hall => exact ⟨all, hall⟩
    case h_2 => cases hscan
  have hfile (names : List String) :
      (FileTree.directory all).isFileAt names = tree.isFileAt (target.scan ++ names) := by
    simp only [FileTree.isFileAt, FileTree.get?_append, hall, Option.bind_some]
  have hmet (names : List String) :
      (FileTree.directory all).IsMet skippedDirectories.contains names ↔
        tree.isFileAt (target.scan ++ names) = true ∧ names ≠ [] ∧
          ∀ name ∈ names.dropLast, name ∉ skippedDirectories := by
    have hne : tree.isFileAt (target.scan ++ names) = true → names ≠ [] := by
      rintro hnames rfl
      rw [← hfile] at hnames
      cases hnames
    simp only [FileTree.IsMet, hfile, List.contains_eq_mem, decide_eq_false_iff_not]
    tauto
  simp only [discover, hall]
  rw [List.mem_mergeSort, List.mem_eraseDups, List.mem_filter,
    FileTree.mem_files_in _ _ _ (h.get? hall), Bool.and_eq_true, Bool.not_eq_true', hasExtension,
    List.contains_iff_mem]
  simp only [hmet]
  constructor
  · rintro ⟨⟨names, rfl, hnames, hbelow⟩, hextension, hkept⟩
    exact ⟨hnames, ⟨names, hbelow.1, rfl, hbelow.2⟩, hextension, hkept⟩
  · rintro ⟨hnames, ⟨names, hne, rfl, hskip⟩, hextension, hkept⟩
    exact ⟨⟨names, rfl, hnames, hne, hskip⟩, hextension, hkept⟩

/-- In whatever order directories list their entries, the same files are discovered. -/
theorem discover_relisted {other : FileTree} (h : tree.Distinct) (hother : tree.Relisted other) :
    discover other target = discover tree target := by
  have hkind := hother.kind_at h
  have hfiles (location : Location) : other.isFileAt location = tree.isFileAt location := by
    rw [Bool.eq_iff_iff, FileTree.is_file_at_iff, FileTree.is_file_at_iff, hkind]
  cases hscan : tree.kindAt? target.scan with
  | none =>
      have hnone : tree.get? target.scan = none := by simpa [FileTree.kindAt?] using hscan
      have hnone' : other.get? target.scan = none := by
        simpa [FileTree.kindAt?] using (hkind target.scan).trans hscan
      simp only [discover, hnone, hnone']
  | some isDirectory =>
      cases isDirectory with
      | false =>
          have hfile := FileTree.is_file_at_iff.mpr hscan
          rw [discover_file hfile, discover_file ((hfiles _).trans hfile)]
      | true =>
          have hdirectory := FileTree.is_directory_at_iff.mpr hscan
          have hdirectory' : other.isDirectoryAt target.scan = true :=
            FileTree.is_directory_at_iff.mpr ((hkind target.scan).trans hscan)
          refine (discover_sorted other target).eq_of_mem_iff (discover_sorted tree target) ?_
          intro location
          rw [mem_discover (hother.distinct h) hdirectory', mem_discover h hdirectory]
          constructor
          · rintro ⟨hfile, hbelow, hextension, hkept⟩
            exact ⟨hfiles location ▸ hfile, hbelow, hextension, hkept⟩
          · rintro ⟨hfile, hbelow, hextension, hkept⟩
            exact ⟨(hfiles location).trans hfile, hbelow, hextension, hkept⟩

/-- The files of a target that is a directory are exactly those that satisfy `IsDiscovered`, each
once and in strict order of their names; the only file of a target that is a file is the file
itself, unless it is ignored. The order in which directories list their entries does not matter. -/
theorem discover_exact (tree : FileTree) (target : Target) (h : tree.Distinct) :
    (tree.isDirectoryAt target.scan = true →
      (discover tree target).Nodup ∧ (discover tree target).Pairwise (· < ·) ∧
      ∀ location, location ∈ discover tree target ↔ IsDiscovered tree target location) ∧
    (tree.isFileAt target.scan = true → discover tree target =
      if Ignore.isIgnored target.root target.config.ignored target.scan then []
      else [target.scan]) ∧
    ∀ other, tree.Relisted other → discover other target = discover tree target := by
  refine ⟨?_, discover_file, fun other => discover_relisted h⟩
  intro hscan
  have hsorted := discover_sorted tree target
  exact ⟨hsorted.imp ne_of_lt, hsorted, fun location => mem_discover h hscan⟩

/-- A directory with a file below another directory and one below a directory to skip, listed from
the back. -/
theorem discover_exact_entries :
    let source := FileTree.directory [("b.XML", .file []), ("old.brs", .file [])]
    let all := [("src", source), ("build", .directory [("a.brs", .file [])]), ("a.txt", .file [])]
    let tree := FileTree.directory all
    let other := FileTree.directory all.reverse
    let target : Target := ⟨[], [], { ignored := ["old.*"] }⟩
    tree.Distinct ∧ tree.isDirectoryAt target.scan = true ∧ tree.Relisted other ∧
      ["src", "b.XML"] ∈ discover other target ∧ ["build", "a.brs"] ∉ discover other target := by
  intro source all tree other target
  have hdistinct : tree.Distinct := by
    refine .directory (by decide) ?_
    simp only [all, List.forall_mem_cons, List.not_mem_nil, false_imp_iff, implies_true, and_true]
    refine ⟨.directory (by decide) ?_, .directory (by decide) ?_, .file []⟩
    all_goals simpa using FileTree.Distinct.file []
  have hscan : tree.isDirectoryAt target.scan = true := rfl
  have hother : tree.Relisted other := .reorder all.reverse_perm.symm
  obtain ⟨hdirectory, -, hrelisted⟩ := discover_exact tree target hdistinct
  obtain ⟨-, -, hmem⟩ := hdirectory hscan
  rw [hrelisted other hother, hmem, hmem]
  refine ⟨hdistinct, hscan, hother, ⟨?_, ?_, ?_, ?_⟩, ?_⟩
  · decide +kernel
  · exact ⟨["src", "b.XML"], by simp, rfl, by decide⟩
  · decide +kernel
  · decide +kernel
  · rintro ⟨-, ⟨names, -, rfl, hskip⟩, -, -⟩
    exact hskip "build" (by decide) (by decide)

end Lint

end ChannelLint
