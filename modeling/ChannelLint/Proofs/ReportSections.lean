import ChannelLint.Proofs.ReportPaths
import Mathlib.Algebra.Group.Int.Defs
import Mathlib.Data.List.Perm.Basic

/-!
# Sections of terminal reports

A terminal report groups warnings by the shown paths of their files and sorts the warnings of a group
by line. The main theorem, `Report.terminal_shows_warnings`, says that this neither loses nor doubles
a warning, and in which order all of them are shown. There is such a report unless a path cannot be
shown or a field cannot be written: `Report.terminal_ok_iff`.
-/

namespace ChannelLint

/-! ## Groups and stable sorting -/

/-- Grouped by distinct keys that cover all items, the items are the same in another order. -/
theorem flat_map_filter_perm {α κ : Type} [BEq κ] [LawfulBEq κ] {key : α → κ} {keys : List κ}
    {items : List α} (hdistinct : keys.Nodup) (hkeys : ∀ item ∈ items, key item ∈ keys) :
    (keys.flatMap fun one => items.filter fun item => key item == one).Perm items := by
  induction keys generalizing items with
  | nil =>
      have hnone : items = [] := List.eq_nil_iff_forall_not_mem.mpr fun item hitem =>
        List.not_mem_nil (hkeys item hitem)
      rw [hnone]
      rfl
  | cons one rest ih =>
      obtain ⟨hone, hrest⟩ := List.nodup_cons.mp hdistinct
      have hothers : (rest.flatMap fun other => items.filter fun item => key item == other) =
          rest.flatMap fun other =>
            (items.filter fun item => !key item == one).filter fun item => key item == other := by
        refine List.flatMap_congr fun other hother => ?_
        rw [List.filter_filter]
        refine List.filter_congr fun item _ => ?_
        have hne : other ≠ one := fun heq => hone (heq ▸ hother)
        by_cases hkey : key item = other <;> simp [hkey, hne]
      have hleft : ∀ item ∈ items.filter (fun item => !key item == one), key item ∈ rest := by
        intro item hitem
        obtain ⟨hmem, hkey⟩ := List.mem_filter.mp hitem
        exact (List.mem_cons.mp (hkeys item hmem)).resolve_left (by simpa using hkey)
      rw [List.flatMap_cons, hothers]
      exact ((ih hrest hleft).append_left _).trans (List.filter_append_perm _ _)

/-- Sorting by a key keeps the order of items with the same key. -/
theorem filter_merge_sort {α : Type} (key : α → Int) (value : Int) (items : List α) :
    (items.mergeSort fun a b => key a ≤ key b).filter (fun item => key item == value) =
      items.filter fun item => key item == value := by
  have hsame : (items.filter fun item => key item == value).Pairwise
      fun a b => decide (key a ≤ key b) = true := by
    refine List.pairwise_of_forall_mem_list fun a ha b hb => ?_
    have hkeys : key a = value ∧ key b = value := by simp_all
    simp [hkeys]
  have hsublist : (items.filter fun item => key item == value).Sublist
      (items.mergeSort fun a b => key a ≤ key b) :=
    List.sublist_mergeSort (by grind) (by grind) hsame List.filter_sublist
  have hkept := hsublist.filter fun item => key item == value
  simp only [List.filter_filter, Bool.and_self] at hkept
  have hlength := ((List.mergeSort_perm items fun a b => key a ≤ key b).filter
    fun item => key item == value).length_eq
  exact (hkept.eq_of_length hlength.symm).symm

namespace Report

/-! ## Sections -/

/-- The headings of the sections, in order. -/
def headings (shown : List (String × Warning)) : List String :=
  ((shown.map Prod.fst).eraseDups).mergeSort fun a b => !(b < a)

section Sections

variable {shown : List (String × Warning)}

/-- The headings are the shown paths. -/
theorem mem_headings {heading : String} :
    heading ∈ headings shown ↔ ∃ warning, (heading, warning) ∈ shown := by
  simp [headings]

/-- No two headings are the same. -/
theorem headings_distinct (shown : List (String × Warning)) : (headings shown).Nodup :=
  (List.mergeSort_perm _ _).nodup_iff.mpr (nodup_erase_dups _)

/-- Headings come in the order of their texts. -/
theorem headings_increasing (shown : List (String × Warning)) :
    (headings shown).Pairwise (· < ·) := by
  have hsorted : (headings shown).Pairwise fun a b => (!decide (b < a)) = true := by
    refine List.pairwise_mergeSort ?_ ?_ _
    · intro a b c hab hbc
      simp only [Bool.not_eq_true', decide_eq_false_iff_not, String.not_lt] at hab hbc ⊢
      exact String.le_trans hab hbc
    · intro a b
      simp only [Bool.or_eq_true, Bool.not_eq_true', decide_eq_false_iff_not, String.not_lt]
      exact String.le_total a b
  refine (hsorted.and (headings_distinct shown)).imp fun {a b} ⟨hle, hne⟩ => ?_
  simp only [Bool.not_eq_true', decide_eq_false_iff_not, String.not_lt] at hle
  refine Decidable.of_not_not fun hlt => ?_
  exact hne (String.le_antisymm hle (String.not_lt.mp hlt))

/-- There is a section for each heading. -/
theorem headings_eq (shown : List (String × Warning)) :
    (sections shown).map Section.heading = headings shown := by
  rw [sections, List.map_map]
  exact List.map_id _

/-- The sections hold the shown warnings, each as often as it is shown. -/
theorem sections_perm (shown : List (String × Warning)) :
    ((sections shown).flatMap Section.warnings).Perm (shown.map Prod.snd) := by
  have hcover : ∀ entry ∈ shown, entry.1 ∈ headings shown := fun entry hentry =>
    mem_headings.mpr ⟨entry.2, hentry⟩
  have hgroups := (flat_map_filter_perm (headings_distinct shown) hcover).map Prod.snd
  rw [List.map_flatMap] at hgroups
  refine List.Perm.trans ?_ hgroups
  rw [sections, List.flatMap_map]
  exact List.Perm.flatMap_left _ fun heading _ => List.mergeSort_perm _ _

variable {part : Section} (hpart : part ∈ sections shown)
include hpart

/-- No section is empty. -/
theorem section_ne_nil : part.warnings ≠ [] := by
  have hheading : part.heading ∈ headings shown := by
    rw [← headings_eq]
    exact List.mem_map_of_mem hpart
  obtain ⟨warning, hwarning⟩ := mem_headings.mp hheading
  exact List.ne_nil_of_mem ((mem_sections hpart).mpr hwarning)

/-- The warnings of a section come in the order of lines. -/
theorem section_sorted : part.warnings.Pairwise fun a b => a.line ≤ b.line := by
  obtain ⟨heading, -, rfl⟩ := List.mem_map.mp hpart
  refine (List.pairwise_mergeSort ?_ ?_ _).imp of_decide_eq_true
  · intro a b c hab hbc
    simp only [decide_eq_true_eq] at hab hbc ⊢
    omega
  · intro a b
    simp only [Bool.or_eq_true, decide_eq_true_eq]
    omega

/-- The warnings of a section on one line are those that are shown with its heading and this line, in
the same order. -/
theorem section_filter_line (line : Int) :
    part.warnings.filter (fun warning => warning.line == line) =
      (shown.filter fun entry => entry.2.line == line && entry.1 == part.heading).map Prod.snd := by
  obtain ⟨heading, -, rfl⟩ := List.mem_map.mp hpart
  rw [filter_merge_sort Warning.line line, List.filter_map, List.filter_filter]
  rfl

end Sections

/-! ## Reports -/

/-- The warning can be shown in a report on the root: neither its path nor the root holds a null
character, and the fields of its rule that are shown can be written. -/
structure IsShowable (root : Path) (warning : Warning) : Prop where
  path : warning.path.hasNull = false
  root : root.hasNull = false
  fields : ∀ field ∈ ["id", "message", "severity"], warning.rule.writes field = true

section Reports

variable {tree : FileTree} {cwd : Location} {root : Path} {width : Nat} {filesScanned : Int}
  {warnings : List Warning}

/-- There is a report with details exactly on warnings that can be shown. -/
theorem terminal_ok_iff [Library] :
    (∃ lines, terminal tree cwd root width filesScanned true warnings = .ok lines) ↔
      ∀ warning ∈ warnings, IsShowable root warning := by
  constructor
  · rintro ⟨lines, h⟩ warning hwarning
    obtain ⟨shown, hshown, h⟩ := bind_eq_ok.mp h
    obtain ⟨_, hwritable, -⟩ := bind_eq_ok.mp h
    obtain ⟨hpath, hroot⟩ := no_null_of_with_paths hshown warning hwarning
    unfold requireWritable at hwritable
    split at hwritable
    case isTrue hall =>
        exact ⟨hpath, hroot, List.all_eq_true.mp (List.all_eq_true.mp hall warning hwarning)⟩
    case isFalse => cases hwritable
  · intro hshowable
    have hnull : ∀ warning ∈ warnings, warning.path.hasNull = false ∧ root.hasNull = false :=
      fun warning hwarning => ⟨(hshowable warning hwarning).path, (hshowable warning hwarning).root⟩
    have hall : (warnings.all fun warning =>
        (shownFields true).all warning.rule.writes) = true :=
      List.all_eq_true.mpr fun warning hwarning =>
        List.all_eq_true.mpr (hshowable warning hwarning).fields
    rw [terminal, hall, if_pos rfl, with_paths_eq hnull]
    exact ⟨_, rfl⟩

/-- A section shows those of the given warnings that have its heading for their path, by line, and
those on one line in the given order. -/
structure Section.Shows (cwd : Location) (root : Path) (warnings : List Warning)
    (part : Section) : Prop where
  ne_nil : part.warnings ≠ []
  heading : ∀ warning ∈ part.warnings, part.heading = reportPath cwd warning.path root
  sorted : part.warnings.Pairwise fun a b => a.line ≤ b.line
  order : ∀ line : Int, part.warnings.filter (fun warning => warning.line == line) =
    warnings.filter fun warning =>
      warning.line == line && reportPath cwd warning.path root == part.heading

/-- The sections of a report show the warnings with their paths. -/
theorem section_shows {part : Section} (hpart : part ∈ sections
      (warnings.map fun warning => (reportPath cwd warning.path root, warning))) :
    part.Shows cwd root warnings where
  ne_nil := section_ne_nil hpart
  heading := by
    intro warning hwarning
    obtain ⟨other, -, heq⟩ := List.mem_map.mp ((mem_sections hpart).mp hwarning)
    obtain ⟨hheading, rfl⟩ := Prod.mk.inj heq
    exact hheading.symm
  sorted := section_sorted hpart
  order := by
    intro line
    rw [section_filter_line hpart, List.filter_map, List.map_map]
    exact List.map_id _

end Reports

/-- A terminal report with details is made exactly if all warnings can be shown. It is made of sections
that show every warning once: their headings are distinct and in the order of their texts, each warning
stands under the shown path of its file, the warnings of a section come by line, and those on one line
in the given order. The summary states how many warnings there are. -/
theorem terminal_shows_warnings [Library] (tree : FileTree) (cwd : Location) (root : Path)
    (width : Nat) (filesScanned : Int) (warnings : List Warning) :
    ((∃ lines, terminal tree cwd root width filesScanned true warnings = .ok lines) ↔
        ∀ warning ∈ warnings, IsShowable root warning) ∧
      ∀ lines, terminal tree cwd root width filesScanned true warnings = .ok lines →
        ∃ parts : List Section,
          lines = headerLines width filesScanned ++
            (parts.flatMap fun part => Terminal.printed width part.heading.toList ++
              part.warnings.flatMap (warningLines width (fileLines tree cwd root part.heading)) ++
                [[]]) ++ summaryLines width warnings ∧
          (parts.flatMap Section.warnings).Perm warnings ∧
          (parts.map Section.heading).Pairwise (· < ·) ∧
          (∀ part ∈ parts, part.Shows cwd root warnings) ∧
          ∃ counts, summary warnings = toString warnings.length ++ " problem(s): " ++ counts := by
  refine ⟨terminal_ok_iff, fun lines h => ?_⟩
  obtain ⟨shown, hshown, hlines⟩ := terminal_sections h
  rw [with_paths_eq (no_null_of_with_paths hshown), Except.ok.injEq] at hshown
  subst hshown
  refine ⟨_, hlines, ?_, ?_, fun part => section_shows, ?_⟩
  · have hperm := sections_perm
      (warnings.map fun warning => (reportPath cwd warning.path root, warning))
    rw [List.map_map] at hperm
    exact hperm.trans (.of_eq (List.map_id _))
  · rw [headings_eq]
    exact headings_increasing _
  · exact ⟨_, by simp only [summary, String.append_assoc]; rfl⟩

open Program (Showing Outcome asciiBytes) in
/-- An identifier that is an integer of 4301 digits cannot be written, so that there is no report on a
warning of its rule. A project can configure such a rule, and the run that finds something then ends
with the error. -/
theorem terminal_integer_too_long :
    let warning : Warning :=
      { rule := { pattern := "stop", extra := [("id", .integer (10 ^ 4300))] },
        path := .ofString "a.brs", line := 0 }
    let config := "[[rules]]\npattern = \"stop\"\nid = 0x1".toList ++ List.replicate 3572 '0'
    let tree := FileTree.directory
      [(Config.fileName, .file (asciiBytes config)), ("a.brs", .file (asciiBytes "stop\n".toList))]
    let showing : Showing := ⟨100, none, none, fun _ => 0, {}, {}, "terminal", rfl⟩
    terminal tree [] (.ofString ".") 100 1 true [warning] = .error .integerTooLong ∧
      (showing.lint tree [] (.ofString ".") "info").map Outcome.exitCode =
        .error (.run .integerTooLong) := by
  decide +kernel

end Report

end ChannelLint
