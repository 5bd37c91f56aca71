import ChannelLint.Proofs.Discovery
import ChannelLint.Proofs.PathTexts
import ChannelLint.Proofs.Verdict

/-!
# Paths in reports

A report shows a file by its path from the root of the project, or by the path as it was given when
the file lies elsewhere. Joined to the root again, what is shown leads to the file in either case:
`reports_identify_files` says so, and that therefore no two files stand under one heading and the
lines below a heading are those of its file. To read a file, its path is followed name by name;
`FileTree.get?_of_lookup` says that this ends where the path leads when it is resolved.
-/

namespace ChannelLint

/-! ## Following paths -/

namespace FileTree

/-- The tree stands at a location of the top one, below the given directories, of which the nearest
is the first. -/
inductive StandsAt (top : FileTree) : Location → List FileTree → FileTree → Prop
  | root : StandsAt top [] [] top
  | child {here : Location} {above : List FileTree} {all : List (String × FileTree)} {name : String}
      {tree : FileTree} : StandsAt top here above (directory all) →
      child? name all = some tree → StandsAt top (here ++ [name]) (directory all :: above) tree

section Follow

variable {top tree found : FileTree} {here : Location} {above : List FileTree}

/-- What stands at a location is found there. -/
theorem StandsAt.get?_eq (h : StandsAt top here above tree) : top.get? here = some tree := by
  induction h with
  | root => rfl
  | child _ hchild ih =>
      rw [get?_append, ih]
      simp [FileTree.get?, entries, hchild]

/-- A step that can be taken leads where the name leads, whatever names come after it. -/
theorem StandsAt.step (h : StandsAt top here above tree) {name : String} {rest : List String}
    (hfollow : follow above tree (name :: rest) = .ok found) :
    ∃ aboveNext next, StandsAt top (Path.descend here name) aboveNext next ∧
      ∀ more, follow above tree (name :: more) = follow aboveNext next more := by
  cases tree with
  | file bytes => cases hfollow
  | directory all =>
      by_cases hup : name = ".."
      · subst hup
        cases h with
        | root => exact ⟨[], directory all, .root, fun more => rfl⟩
        | @child here above others name _ habove hchild =>
            -- The nearest of the directories above stands one name higher.
            have hhere : Path.descend (here ++ [name]) ".." = here := List.dropLast_concat
            rw [hhere]
            exact ⟨above, directory others, habove, fun more => rfl⟩
      · have hdown : Path.descend here name = here ++ [name] := if_neg (by simpa using hup)
        have hname : (name == "..") = false := by simpa using hup
        cases hchild : child? name all with
        | none => simp [follow, hname, hchild] at hfollow
        | some next =>
            rw [hdown]
            exact ⟨directory all :: above, next, .child h hchild, fun more => by
              simp [follow, hname, hchild]⟩

/-- Following names ends at the location to which they lead. -/
theorem StandsAt.follow_found (h : StandsAt top here above tree) {names : List String}
    (hfollow : follow above tree names = .ok found) :
    top.get? (names.foldl Path.descend here) = some found := by
  induction names generalizing here above tree with
  | nil =>
      cases hfollow
      exact h.get?_eq
  | cons name rest ih =>
      obtain ⟨aboveNext, next, hnext, hstep⟩ := h.step hfollow
      exact ih hnext (hstep rest ▸ hfollow)

/-- Names that lead down can be followed to what stands there. -/
theorem follow_down {names : List String} (hnames : ∀ name ∈ names, name ≠ "..")
    (hfound : tree.get? names = some found) : follow above tree names = .ok found := by
  induction names generalizing above tree with
  | nil =>
      cases hfound
      rfl
  | cons name rest ih =>
      obtain ⟨hname, hrest⟩ := List.forall_mem_cons.mp hnames
      rw [FileTree.get?] at hfound
      split at hfound
      case h_2 => cases hfound
      case h_1 below hchild =>
          cases tree with
          | file bytes => cases hchild
          | directory all =>
              have hall : child? name all = some below := hchild
              have hup : (name == "..") = false := by simpa using hname
              simp only [follow, hup, hall, Bool.false_eq_true, if_false]
              exact ih hrest hfound

/-- If names can be followed, then so can those that lead down to something from where they end. -/
theorem StandsAt.follow_append (h : StandsAt top here above tree) {first second : List String}
    {middle : FileTree} (hfirst : follow above tree first = .ok middle)
    (hsecond : ∀ name ∈ second, name ≠ "..")
    (hfound : top.get? (first.foldl Path.descend here ++ second) = some found) :
    follow above tree (first ++ second) = .ok found := by
  induction first generalizing here above tree with
  | nil =>
      rw [List.foldl_nil, get?_append, h.get?_eq] at hfound
      exact follow_down hsecond hfound
  | cons name rest ih =>
      obtain ⟨aboveNext, next, hnext, hstep⟩ := h.step hfirst
      rw [List.cons_append, hstep]
      exact ih hnext (hstep rest ▸ hfirst) hfound

end Follow

section Lookup

variable {tree found : FileTree} {cwd : Location} {path root : Path}

/-- What is found at an absolute path stands where the path leads. -/
theorem get?_of_lookup (habsolute : path.isAbsolute = true)
    (h : tree.lookup cwd path = .ok found) : tree.get? (path.resolveFrom cwd) = some found := by
  rw [lookup, if_pos habsolute] at h
  rw [Path.resolveFrom, if_pos habsolute]
  exact StandsAt.root.follow_found h

/-- What stands below a root that is there is found at its path from the root. -/
theorem lookup_join {middle : FileTree} {names : List String} (habsolute : root.isAbsolute = true)
    (hroot : tree.lookup cwd root = .ok middle) (hnames : ∀ name ∈ names, name ≠ "..")
    (hfound : tree.get? (root.resolveFrom cwd ++ names) = some found) :
    tree.lookup cwd (root.join ⟨0, names⟩) = .ok found := by
  rw [lookup, if_pos habsolute] at hroot
  rw [Path.resolveFrom, if_pos habsolute] at hfound
  have hjoined : (root.join ⟨0, names⟩).isAbsolute = true := habsolute
  rw [lookup, if_pos hjoined]
  exact StandsAt.root.follow_append hroot hnames hfound

end Lookup

end FileTree

/-! ## What is shown -/

section Shown

variable {cwd : Location} {path root : Path}

/-- The shown path of a file is spelled by the names from the root to it, if it lies at or below,
and by its path otherwise. -/
theorem of_string_report_path (cwd : Location) (root : Path) (hpath : path.IsProper)
    (habsolute : path.isAbsolute = true) :
    (∃ names, path.resolveFrom cwd = root.resolveFrom cwd ++ names ∧
      (∀ name ∈ names, IsName name) ∧ Path.ofString (reportPath cwd path root) = ⟨0, names⟩) ∨
    Path.ofString (reportPath cwd path root) = path := by
  unfold reportPath
  split
  case h_1 names hnames =>
      have hlocation := Location.relative_to_eq_some_iff.mp hnames
      have hall : ∀ name ∈ names, IsName name := fun name hname =>
        Path.resolve_names hpath (.inl habsolute) name
          (hlocation ▸ List.mem_append_right _ hname)
      have hproper : Path.IsProper ⟨0, names⟩ :=
        ⟨Nat.zero_le 2, fun name hname => (hall name hname).toIsComponent⟩
      exact .inl ⟨names, hlocation, hall, Path.of_string_to_string hproper⟩
  case h_2 => exact .inr (Path.of_string_to_string hpath)

/-- Joined to the root, the shown path of a file leads to the file. -/
theorem resolve_report_path (hpath : path.IsProper) (habsolute : path.isAbsolute = true) :
    (root.join (.ofString (reportPath cwd path root))).resolveFrom cwd = path.resolveFrom cwd := by
  rcases of_string_report_path cwd root hpath habsolute with
    ⟨names, hlocation, hnames, htext⟩ | htext
  · rw [htext, Path.resolve_join root (fun name hname => (hnames name hname).descends), hlocation]
  · rw [htext, Path.join, if_pos habsolute]

/-- A file that is found at its path is found by its shown path as well, if the root is there. -/
theorem lookup_report_path {tree found middle : FileTree} (hpath : path.IsProper)
    (habsolute : path.isAbsolute = true) (hroot : root.isAbsolute = true)
    (hmiddle : tree.lookup cwd root = .ok middle) (hfound : tree.lookup cwd path = .ok found) :
    tree.lookup cwd (root.join (.ofString (reportPath cwd path root))) = .ok found := by
  rcases of_string_report_path cwd root hpath habsolute with
    ⟨names, hlocation, hnames, htext⟩ | htext
  · have hget := FileTree.get?_of_lookup habsolute hfound
    rw [hlocation] at hget
    rw [htext]
    exact FileTree.lookup_join hroot hmiddle (fun name hname => (hnames name hname).descends) hget
  · rwa [htext, Path.join, if_pos habsolute]

/-- Where components lead, there are no names but theirs and those of where they start. -/
theorem Path.mem_of_descend {name : String} {parts : List String} {location : Location}
    (h : name ∈ parts.foldl descend location) : name ∈ location ∨ name ∈ parts := by
  induction parts generalizing location with
  | nil => exact .inl h
  | cons part rest ih =>
      rcases ih h with h | h
      case inr => exact .inr (List.mem_cons_of_mem _ h)
      case inl =>
          unfold descend at h
          split at h
          case isTrue => exact .inl (List.dropLast_subset _ h)
          case isFalse =>
              rcases List.mem_append.mp h with h | h
              · exact .inl h
              · exact .inr (List.mem_singleton.mp h ▸ List.mem_cons_self)

/-- The names of a location come from the absolute path that leads there. -/
theorem Path.mem_of_resolve {name : String} (habsolute : path.isAbsolute = true)
    (h : name ∈ path.resolveFrom cwd) : name ∈ path.parts := by
  rw [resolveFrom, if_pos habsolute] at h
  exact (mem_of_descend h).resolve_left List.not_mem_nil

/-- The shown path of a file, joined to the root, holds no null character if neither path does. -/
theorem has_null_report_path (hpath : path.IsProper) (habsolute : path.isAbsolute = true)
    (hnull : path.hasNull = false) (hroot : root.hasNull = false) :
    (root.join (.ofString (reportPath cwd path root))).hasNull = false := by
  rcases of_string_report_path cwd root hpath habsolute with
    ⟨names, hlocation, hnames, htext⟩ | htext
  · rw [htext]
    simp only [Path.hasNull, List.any_eq_false] at hnull hroot ⊢
    intro name hname
    rcases List.mem_append.mp hname with hname | hname
    · exact hroot name hname
    · exact hnull name (Path.mem_of_resolve habsolute (hlocation ▸ List.mem_append_right _ hname))
  · rwa [htext, Path.join, if_pos habsolute]

end Shown

namespace FileTree

/-- A file is read exactly if its path holds no null character and leads to the file. -/
theorem read_eq_ok_iff {tree : FileTree} {cwd : Location} {path : Path} {bytes : List UInt8} :
    tree.read cwd path = .ok bytes ↔
      path.hasNull = false ∧ tree.lookup cwd path = .ok (.file bytes) := by
  unfold read
  cases hnull : path.hasNull with
  | true => simp
  | false =>
      cases hlookup : tree.lookup cwd path with
      | error cause => simp
      | ok found => cases found <;> simp

end FileTree

namespace Report

/-! ## Sections -/

section Sections

variable {cwd : Location} {root : Path}

/-- The warnings of a section are those that have its heading for their path. -/
theorem mem_sections {shown : List (String × Warning)} {part : Section} (h : part ∈ sections shown)
    {warning : Warning} : warning ∈ part.warnings ↔ (part.heading, warning) ∈ shown := by
  obtain ⟨heading, -, rfl⟩ := List.mem_map.mp h
  simp [List.mem_mergeSort]

/-- Every shown warning has a section. -/
theorem exists_section {shown : List (String × Warning)} {heading : String} {warning : Warning}
    (h : (heading, warning) ∈ shown) :
    ∃ part ∈ sections shown, part.heading = heading ∧ warning ∈ part.warnings := by
  have hheading : heading ∈ shown.map Prod.fst := List.mem_map_of_mem h
  have hmem : heading ∈ ((shown.map Prod.fst).eraseDups).mergeSort (fun a b => !(b < a)) :=
    List.mem_mergeSort.mpr (List.mem_eraseDups.mpr hheading)
  refine ⟨_, List.mem_map_of_mem hmem, rfl, ?_⟩
  simpa [List.mem_mergeSort] using h

/-- If warnings are shown, then neither their paths nor the root hold a null character. -/
theorem no_null_of_with_paths {warnings : List Warning} {shown : List (String × Warning)}
    (h : withPaths cwd root warnings = .ok shown) :
    ∀ warning ∈ warnings, warning.path.hasNull = false ∧ root.hasNull = false := by
  induction warnings generalizing shown with
  | nil => exact nofun
  | cons warning rest ih =>
      obtain ⟨heading, hheading, h⟩ := bind_eq_ok.mp h
      obtain ⟨others, hothers, -⟩ := bind_eq_ok.mp h
      refine List.forall_mem_cons.mpr ⟨?_, ih hothers⟩
      unfold shownPath at hheading
      split at hheading
      case isTrue => cases hheading
      case isFalse hnull => simpa using hnull

/-- A terminal report with details is made of the sections of its warnings. -/
theorem terminal_sections [Library] {tree : FileTree} {width : Nat} {filesScanned : Int}
    {warnings : List Warning} {lines : List (List Char)}
    (h : terminal tree cwd root width filesScanned true warnings = .ok lines) :
    ∃ shown, withPaths cwd root warnings = .ok shown ∧
      lines = headerLines width filesScanned ++
        (sections shown).flatMap (sectionLines tree cwd root width) ++
          summaryLines width warnings := by
  obtain ⟨shown, hshown, h⟩ := bind_eq_ok.mp h
  obtain ⟨_, -, h⟩ := bind_eq_ok.mp h
  cases h
  exact ⟨shown, hshown, rfl⟩

/-- The lines of a file with the given bytes. -/
def linesOf (bytes : List UInt8) : List (List Char) :=
  Text.splitAtChar '\n' (Text.unifyNewlines (Text.decodeLossy bytes))

/-- The location of the file that is read for a heading. -/
def headedLocation (cwd : Location) (root : Path) (heading : String) : Location :=
  (root.join (.ofString heading)).resolveFrom cwd

/-- A section is about the file that is read for its heading, and about no other. -/
structure Section.IsAboutFile (tree : FileTree) (cwd : Location) (root : Path) (part : Section) :
    Prop where
  /-- All its warnings are about the file. -/
  warnings : ∀ warning ∈ part.warnings,
    warning.path.resolveFrom cwd = headedLocation cwd root part.heading
  /-- The lines that it shows are those of the file, if it shows any. -/
  lines : fileLines tree cwd root part.heading = [] ∨
    ∃ bytes, tree.get? (headedLocation cwd root part.heading) = some (.file bytes) ∧
      fileLines tree cwd root part.heading = linesOf bytes
  /-- If the root is there and the file of a warning can be read, then its lines are shown. -/
  read : ∀ warning ∈ part.warnings, ∀ bytes, (tree.lookup cwd root).isOk = true →
    tree.read cwd warning.path = .ok bytes →
      fileLines tree cwd root part.heading = linesOf bytes

/-- The lines that are shown under a heading are those of the file to which it leads. -/
theorem lines_of_headed {tree : FileTree} (hroot : root.isAbsolute = true) (heading : String) :
    fileLines tree cwd root heading = [] ∨
      ∃ bytes, tree.get? (headedLocation cwd root heading) = some (.file bytes) ∧
        fileLines tree cwd root heading = linesOf bytes := by
  have hjoined : (root.join (.ofString heading)).isAbsolute = true := by
    unfold Path.join
    split
    case isTrue habsolute => exact habsolute
    case isFalse => exact hroot
  unfold fileLines
  cases hread : tree.read cwd (root.join (.ofString heading)) with
  | error error => exact .inl rfl
  | ok bytes =>
      obtain ⟨-, hlookup⟩ := FileTree.read_eq_ok_iff.mp hread
      exact .inr ⟨bytes, FileTree.get?_of_lookup hjoined hlookup, rfl⟩

/-- The lines of a file that can be read are shown under its path, if the root is there. -/
theorem file_lines_report_path {tree : FileTree} {path : Path} {bytes : List UInt8}
    (hpath : path.IsProper) (habsolute : path.isAbsolute = true) (hroot : root.isAbsolute = true)
    (hnull : root.hasNull = false) (hthere : (tree.lookup cwd root).isOk = true)
    (hread : tree.read cwd path = .ok bytes) :
    fileLines tree cwd root (reportPath cwd path root) = linesOf bytes := by
  obtain ⟨hclean, hfound⟩ := FileTree.read_eq_ok_iff.mp hread
  obtain ⟨middle, hmiddle⟩ := exists_eq_ok hthere
  have hshown := FileTree.read_eq_ok_iff.mpr
    ⟨has_null_report_path hpath habsolute hclean hnull,
      lookup_report_path hpath habsolute hroot hmiddle hfound⟩
  rw [fileLines, hshown]
  rfl

/-- Each section of a report on files at absolute paths is about one file. -/
theorem section_is_about_file {tree : FileTree} {warnings : List Warning}
    {shown : List (String × Warning)} (hroot : root.isAbsolute = true)
    (hwarnings : ∀ warning ∈ warnings, warning.path.IsProper ∧ warning.path.isAbsolute = true)
    (hshown : withPaths cwd root warnings = .ok shown) {part : Section}
    (hpart : part ∈ sections shown) : part.IsAboutFile tree cwd root := by
  have hnull := no_null_of_with_paths hshown
  rw [with_paths_eq hnull, Except.ok.injEq] at hshown
  have hfrom : ∀ warning ∈ part.warnings,
      warning ∈ warnings ∧ reportPath cwd warning.path root = part.heading := by
    intro warning hwarning
    rw [mem_sections hpart, ← hshown] at hwarning
    obtain ⟨other, hother, heq⟩ := List.mem_map.mp hwarning
    obtain ⟨hheading, rfl⟩ := Prod.mk.inj heq
    exact ⟨hother, hheading⟩
  refine ⟨fun warning hwarning => ?_, lines_of_headed hroot _,
    fun warning hwarning bytes hthere hread => ?_⟩
  all_goals
    obtain ⟨hmem, hheading⟩ := hfrom warning hwarning
    obtain ⟨hproper, habsolute⟩ := hwarnings warning hmem
    rw [← hheading]
  · exact (resolve_report_path hproper habsolute).symm
  · exact file_lines_report_path hproper habsolute hroot (hnull warning hmem).2 hthere hread

end Sections

/-- Joined to an absolute root, the shown path of a file at an absolute path leads to the file;
files at different locations have different shown paths; and every section of a terminal report on
such files is about one file, of which it shows the lines. -/
theorem reports_identify_files [Library] {root : String}
    (hroot : (Path.ofString root).isAbsolute = true) (cwd : Location) :
    (∀ path : String, (Path.ofString path).isAbsolute = true →
      ((Path.ofString root).join
        (.ofString (reportPath cwd (.ofString path) (.ofString root)))).resolveFrom cwd =
          (Path.ofString path).resolveFrom cwd) ∧
      (∀ first second : String, (Path.ofString first).isAbsolute = true →
        (Path.ofString second).isAbsolute = true →
        reportPath cwd (.ofString first) (.ofString root) =
          reportPath cwd (.ofString second) (.ofString root) →
        (Path.ofString first).resolveFrom cwd = (Path.ofString second).resolveFrom cwd) ∧
      ∀ (tree : FileTree) (width : Nat) (filesScanned : Int) (warnings : List Warning)
        (lines : List (List Char)),
        (∀ warning ∈ warnings, ∃ path : String, warning.path = .ofString path ∧
          warning.path.isAbsolute = true) →
        terminal tree cwd (.ofString root) width filesScanned true warnings = .ok lines →
        ∃ shown, withPaths cwd (.ofString root) warnings = .ok shown ∧
          lines = headerLines width filesScanned ++
            (sections shown).flatMap (sectionLines tree cwd (.ofString root) width) ++
              summaryLines width warnings ∧
          (∀ warning ∈ warnings, ∃ part ∈ sections shown, warning ∈ part.warnings) ∧
          ∀ part ∈ sections shown, part.IsAboutFile tree cwd (.ofString root) := by
  have hjoin : ∀ path : String, (Path.ofString path).isAbsolute = true →
      ((Path.ofString root).join
        (.ofString (reportPath cwd (.ofString path) (.ofString root)))).resolveFrom cwd =
          (Path.ofString path).resolveFrom cwd :=
    fun path habsolute => resolve_report_path (Path.of_string_proper path) habsolute
  refine ⟨hjoin, ?_, ?_⟩
  · intro first second hfirst hsecond hsame
    rw [← hjoin first hfirst, hsame, hjoin second hsecond]
  · intro tree width filesScanned warnings lines hwarnings h
    obtain ⟨shown, hshown, hlines⟩ := terminal_sections h
    refine ⟨shown, hshown, hlines, ?_, fun part => ?_⟩
    · intro warning hwarning
      rw [with_paths_eq (no_null_of_with_paths hshown), Except.ok.injEq] at hshown
      obtain ⟨part, hpart, -, hmem⟩ :=
        exists_section (hshown ▸ List.mem_map_of_mem hwarning)
      exact ⟨part, hpart, hmem⟩
    · refine section_is_about_file hroot (fun warning hwarning => ?_) hshown
      obtain ⟨path, hpath, habsolute⟩ := hwarnings warning hwarning
      exact ⟨hpath ▸ Path.of_string_proper path, habsolute⟩

/-- Two spellings of one file below a root that is spelled with dots, and another file beside the
root. -/
theorem reports_identify_files_dotted :
    (Path.ofString "/work/./lib/../app").isAbsolute = true ∧
      reportPath [] (.ofString "/work//app/../app/main.brs") (.ofString "/work/./lib/../app") =
        "main.brs" ∧
      reportPath [] (.ofString "/work/app/./main.brs") (.ofString "/work/./lib/../app") =
        "main.brs" ∧
      reportPath [] (.ofString "/work/app2/../lib/main.brs") (.ofString "/work/./lib/../app") =
        "/work/app2/../lib/main.brs" ∧
      ((Path.ofString "/work/./lib/../app").join (.ofString (reportPath []
        (.ofString "/work/app2/../lib/main.brs") (.ofString "/work/./lib/../app")))).resolveFrom [] =
          ["work", "lib", "main.brs"] ∧
      (Path.ofString "/work//app/../app/main.brs").resolveFrom [] =
        (Path.ofString "/work/app/./main.brs").resolveFrom [] ∧
      let rule : Rule := { pattern := "print" }
      let warnings : List Warning := [
        { rule := rule, path := .ofString "/work//app/../app/main.brs", line := 1 },
        { rule := rule, path := .ofString "/work/app2/../lib/main.brs", line := 0 }]
      let tree : FileTree := .directory [("work", .directory [
        ("app", .directory [("main.brs", .file [0x61, 0x0a, 0x62])]),
        ("app2", .directory []),
        ("lib", .directory [("main.brs", .file [0x63])])])]
      ∃ lines shown,
        terminal tree [] (.ofString "/work/./lib/../app") 80 2 true warnings = .ok lines ∧
        withPaths [] (.ofString "/work/./lib/../app") warnings = .ok shown ∧
        (∀ warning ∈ warnings, ∃ part ∈ sections shown, warning ∈ part.warnings) ∧
        (∀ part ∈ sections shown, part.IsAboutFile tree [] (.ofString "/work/./lib/../app")) ∧
        fileLines tree [] (.ofString "/work/./lib/../app") "main.brs" = [['a'], ['b']] ∧
        fileLines tree [] (.ofString "/work/./lib/../app") "/work/app2/../lib/main.brs" =
          [['c']] := by
  have hroot : (Path.ofString "/work/./lib/../app").isAbsolute = true := by decide
  obtain ⟨hjoin, hsame, hreport⟩ := reports_identify_files hroot []
  have hfirst : reportPath [] (.ofString "/work//app/../app/main.brs")
      (.ofString "/work/./lib/../app") = "main.brs" := by decide
  have hsecond : reportPath [] (.ofString "/work/app/./main.brs")
      (.ofString "/work/./lib/../app") = "main.brs" := by decide
  have hother : reportPath [] (.ofString "/work/app2/../lib/main.brs")
      (.ofString "/work/./lib/../app") = "/work/app2/../lib/main.brs" := by decide
  refine ⟨hroot, hfirst, hsecond, hother, (hjoin _ (by decide)).trans (by decide),
    hsame _ _ (by decide) (by decide) (hfirst.trans hsecond.symm), ?_⟩
  intro rule warnings tree
  have hwarnings : ∀ warning ∈ warnings, ∃ path : String, warning.path = .ofString path ∧
      warning.path.isAbsolute = true :=
    List.forall_mem_cons.mpr ⟨⟨_, rfl, by decide⟩,
      List.forall_mem_cons.mpr ⟨⟨_, rfl, by decide⟩, nofun⟩⟩
  have hnull : ∀ warning ∈ warnings, warning.path.hasNull = false ∧
      (Path.ofString "/work/./lib/../app").hasNull = false := by decide
  obtain ⟨lines, hlines⟩ := terminal_ok hnull (by decide +kernel) tree 80 2 true
  obtain ⟨shown, hshown, -, hall, habout⟩ := hreport tree 80 2 warnings lines hwarnings hlines
  exact ⟨lines, shown, hlines, hshown, hall, habout, by decide, by decide⟩

end Report

end ChannelLint
