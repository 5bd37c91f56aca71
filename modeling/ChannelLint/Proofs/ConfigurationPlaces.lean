import ChannelLint.Proofs.ConfiguredRules

/-!
# The places of a configuration

A project keeps its configuration in a file of its own or in a section of its general project file.
The fields of the section have longer paths, which are handed down to every check. `LintError.moved`
says what this does to an error: the path that it names gets a front. Each check is shown to commute
with that, from the fields of a rule (`Rule.take_fields_moved`) up to the whole table
(`Config.of_table_moved`). The main theorem, `Config.places_equivalent`, follows: a table means the
same in either place, also when it is empty, where the section is not read at all.
-/

namespace ChannelLint

/-! ## Errors at other paths -/

/-- The mistake in a field whose path has the given front. -/
def ConfigError.moved (front : String) : ConfigError → ConfigError
  | document path cause place => document path cause place
  | notArrayOfTables field => notArrayOfTables (front ++ field)
  | notTable field => notTable (front ++ field)
  | notPatternText field => notPatternText (front ++ field)
  | notBoolean field => notBoolean (front ++ field)
  | missingPattern field => missingPattern (front ++ field)
  | notString field => notString (front ++ field)
  | unknownSeverity field => unknownSeverity (front ++ field)
  | invalidPattern field pattern cause position =>
      invalidPattern (front ++ field) pattern cause position
  | notStringList field => notStringList (front ++ field)
  | unknownIndentCharacter field => unknownIndentCharacter (front ++ field)
  | notInteger field => notInteger (front ++ field)
  | notPositive field => notPositive (front ++ field)
  | rulePattern label pattern cause position => rulePattern label pattern cause position

/-- The error when fields have paths with the given front; only mistakes of the configuration name
fields. -/
def LintError.moved (front : String) : LintError → LintError
  | config cause => config (cause.moved front)
  | error => error

/-- The errors are the same, or both blame the configuration with texts that differ only in a front
of the field that they name. -/
inductive LintError.SameButFront (front : String) : LintError → LintError → Prop
  | same (error : LintError) : SameButFront front error error
  | named {first second : ConfigError} (text : String) :
      first.message = "`" ++ text → second.message = "`" ++ front ++ text →
      SameButFront front (config first) (config second)

/-- Mistakes whose texts begin with the field are the same but for its front. -/
theorem LintError.SameButFront.of_field {front : String} {first second : ConfigError}
    (field rest : String) (hfirst : first.message = fieldText field ++ rest)
    (hsecond : second.message = fieldText (front ++ field) ++ rest) :
    SameButFront front (config first) (config second) := by
  refine .named (field ++ "`" ++ rest) ?_ ?_
  · rw [hfirst, fieldText]
    simp only [String.append_assoc]
  · rw [hsecond, fieldText]
    simp only [String.append_assoc]

/-- A mistake that moves is the same but for the front. -/
theorem ConfigError.same_but_front_moved (front : String) (cause : ConfigError) :
    LintError.SameButFront front (.config cause) (.config (cause.moved front)) := by
  cases cause with
  | document | rulePattern => exact .same _
  | missingPattern field =>
      refine .of_field (field ++ ".pattern") " is required." rfl ?_
      rw [← String.append_assoc]
      rfl
  | invalidPattern field pattern cause position =>
      refine .of_field (field ++ ".pattern") (" is not a valid regular expression: " ++
        Pattern.PatternError.message pattern.toList (.malformed cause position)) ?_ ?_
      · rw [← String.append_assoc]
        rfl
      · rw [← String.append_assoc, ← String.append_assoc]
        rfl
  | notArrayOfTables | notTable | notPatternText | notBoolean | notString | unknownSeverity
  | notStringList | unknownIndentCharacter | notInteger | notPositive =>
      exact .of_field _ _ rfl rfl

/-- An error that moves is the same but for the front. -/
theorem LintError.same_but_front_moved (front : String) (error : LintError) :
    error.SameButFront front (error.moved front) := by
  cases error with
  | config cause => exact cause.same_but_front_moved front
  | _ => exact .same _

/-- Wrapping the errors of a computation in two steps wraps those of each step. -/
theorem map_error_bind {ε δ α β : Type} (wrap : ε → δ) (first : Except ε α)
    (second : α → Except ε β) :
    (first >>= second).mapError wrap =
      first.mapError wrap >>= fun value => (second value).mapError wrap := by
  cases first <;> rfl

/-- What is left of a computation without its errors is what it returns. -/
theorem to_option_eq_some {ε α : Type} {result : Except ε α} {value : α} :
    result.toOption = some value ↔ result = .ok value := by
  cases result <;> simp [Except.toOption]

/-- A mistake that moves moves as an error. -/
theorem map_error_config_moved {α : Type} (front : String) (check : Except ConfigError α) :
    (check.mapError (ConfigError.moved front)).mapError LintError.config =
      (check.mapError LintError.config).mapError (LintError.moved front) := by
  cases check <;> rfl

/-! ## Rules -/

namespace Rule

variable (front : String)

/-- The fields of a rule are taken in the same way at another path. -/
theorem take_fields_moved (field : String) (seen : Bool) (rule : Rule) (entries : Table) :
    takeFields (front ++ field) seen rule entries =
      (takeFields field seen rule entries).mapError (.moved front) := by
  fun_induction takeFields field seen rule entries with
  | case1 => rfl
  | case2 seen rule key rest hkey pattern hempty =>
      simp [takeFields, hkey, hempty, Except.mapError, ConfigError.moved, String.append_assoc]
  | case3 seen rule key rest hkey pattern hpattern ih =>
      simp [takeFields, hkey, hpattern, ih]
  | case4 seen rule key value rest hkey hvalue =>
      simp [takeFields, hkey, Except.mapError, ConfigError.moved, String.append_assoc]
  | case5 seen rule key rest hkey switched hswitch b ih =>
      simp [takeFields, hkey, hswitch, ih]
  | case6 seen rule key value rest hkey switched hswitch hvalue =>
      simp [takeFields, hkey, hswitch, Except.mapError, ConfigError.moved, String.append_assoc]
  | case7 seen rule key value rest hkey hswitch ih =>
      simp [takeFields, hkey, hswitch, ih]

/-- The severity of a rule is checked in the same way at another path. -/
theorem normalize_severity_moved (field : String) (rule : Rule) :
    normalizeSeverity (front ++ field) rule =
      (normalizeSeverity field rule).mapError (.moved front) := by
  unfold normalizeSeverity
  split
  case h_1 => rfl
  case h_2 => rfl
  case h_3 =>
      split
      · rfl
      · simp only [Except.mapError, ConfigError.moved, String.append_assoc]
  case h_4 => simp only [Except.mapError, ConfigError.moved, String.append_assoc]

/-- The pattern of a rule is checked in the same way at another path. -/
theorem check_pattern_moved [Library] (field : String) (rule : Rule) :
    checkPattern (front ++ field) rule =
      (checkPattern field rule).mapError (.moved front) := by
  unfold checkPattern
  split
  case h_1 => rfl
  case h_2 fault _ => cases fault <;> rfl

/-- A rule is described in the same way at another path. -/
theorem of_fields_moved (field : String) (value : Value) :
    ofFields (front ++ field) value = (ofFields field value).mapError (.moved front) := by
  unfold ofFields
  split
  case h_1 entries =>
      rw [take_fields_moved, map_error_bind]
      refine bind_congr fun ⟨seen, rule⟩ => ?_
      dsimp only
      split
      · exact normalize_severity_moved front field rule
      · rfl
  case h_2 => rfl

/-- A rule is read in the same way at another path. -/
theorem of_value_moved [Library] (field : String) (value : Value) :
    ofValue (front ++ field) value = (ofValue field value).mapError (.moved front) := by
  simp only [ofValue, map_error_bind, of_fields_moved, map_error_config_moved,
    check_pattern_moved]
  rfl

/-- Rules are read in the same way at another path. -/
theorem of_values_moved [Library] (field : String) (first : Nat) (values : List Value) :
    ofValues (front ++ field) first values =
      (ofValues field first values).mapError (.moved front) := by
  induction values generalizing first with
  | nil => rfl
  | cons value rest ih =>
      have hitem : itemPath (front ++ field) first = front ++ itemPath field first := by
        simp only [itemPath, String.append_assoc]
      simp only [ofValues, map_error_bind, hitem, of_value_moved, ih]
      rfl

/-- An array of rules is read in the same way at another path. -/
theorem of_array_moved [Library] (field : String) (value : Value) :
    ofArray (front ++ field) value = (ofArray field value).mapError (.moved front) := by
  unfold ofArray
  split
  case h_1 items => exact of_values_moved front field 0 items
  case h_2 => rfl

end Rule

/-! ## Tables -/

namespace Config

section Checks

variable (front : String)

/-- A list of strings is checked in the same way at another path. -/
theorem string_list_moved (field : String) (value : Value) :
    stringList (front ++ field) value = (stringList field value).mapError (.moved front) := by
  unfold stringList
  split
  case h_1 => rfl
  case h_2 => split <;> rfl
  case h_3 => rfl

/-- The indentation character is checked in the same way at another path. -/
theorem indent_character_moved (field : String) (value : Option Value) :
    indentCharacter (front ++ field) value =
      (indentCharacter field value).mapError (.moved front) := by
  unfold indentCharacter
  split
  case h_1 => rfl
  case h_2 =>
      dsimp only
      split
      · rfl
      · split
        · rfl
        · simp only [Except.mapError, ConfigError.moved, String.append_assoc]
  case h_3 => simp only [Except.mapError, ConfigError.moved, String.append_assoc]

/-- The number of indentation characters is checked in the same way at another path. -/
theorem indent_count_moved (field : String) (character : IndentCharacter) (value : Option Value) :
    indentCount (front ++ field) character value =
      (indentCount field character value).mapError (.moved front) := by
  unfold indentCount
  split
  case h_1 => rfl
  case h_2 =>
      split
      · simp only [Except.mapError, ConfigError.moved, String.append_assoc]
      · rfl
  case h_3 => simp only [Except.mapError, ConfigError.moved, String.append_assoc]

/-- The table on indentation is read in the same way at another path. -/
theorem indent_config_moved (field : String) (value : Option Value) :
    indentConfig (front ++ field) value = (indentConfig field value).mapError (.moved front) := by
  unfold indentConfig
  split
  case h_4 entries =>
      simp only [map_error_bind, indent_character_moved, indent_count_moved]
      rfl
  all_goals rfl

/-- The table of ignored paths is read in the same way at another path. -/
theorem ignored_paths_moved (field : String) (value : Option Value) :
    ignoredPaths (front ++ field) value = (ignoredPaths field value).mapError (.moved front) := by
  unfold ignoredPaths
  split
  case h_3 entries => rw [String.append_assoc, string_list_moved]
  all_goals rfl

end Checks

/-- A table is read at a key of a document as it is read by itself, with the key in front of all
fields. -/
theorem of_table_moved [Library] {scope : String} (hscope : scope.isEmpty = false)
    (entries : Table) :
    ofTable scope entries = (ofTable "" entries).mapError (.moved (scope ++ ".")) := by
  have hpath : ∀ key, fieldPath scope key = scope ++ "." ++ fieldPath "" key := fun key => by
    rw [fieldPath, hscope]
    rfl
  have hrules : rulesOf scope entries = (rulesOf "" entries).mapError (.moved (scope ++ ".")) := by
    unfold rulesOf
    split
    case h_1 value _ => rw [hpath, Rule.of_array_moved]
    case h_2 => rfl
  have hextensions : extensionsOf scope entries =
      (extensionsOf "" entries).mapError (.moved (scope ++ ".")) := by
    unfold extensionsOf
    split
    case h_1 value _ => rw [hpath, string_list_moved]
    case h_2 => rfl
  simp only [ofTable, map_error_bind, hrules, hextensions, hpath, indent_config_moved,
    ignored_paths_moved, map_error_config_moved]
  rfl

/-! ## Documents -/

/-- The table of the tool in a general project file. -/
def toolTable? (document : Table) : Option Table :=
  match Table.get? "tool" document with
  | some (.table tools) =>
      match Table.get? toolName tools with
      | some (.table own) => some own
      | _ => none
  | _ => none

section Places

variable {tree : FileTree} {cwd : Location} {directory : Path} {entries : Table}

/-- The tool's table stands two keys down. -/
theorem tool_table_found {document : Table} (h : toolTable? document = some entries) :
    ∃ tools, Table.get? "tool" document = some (.table tools) ∧
      Table.get? toolName tools = some (.table entries) := by
  unfold toolTable? at h
  split at h
  case h_2 => cases h
  case h_1 tools htools =>
      split at h
      case h_2 => cases h
      case h_1 own hown =>
          cases h
          exact ⟨tools, htools, hown⟩

/-- A general project file is read as the tool's table in it, also when this is empty and the defaults
are taken at once. -/
theorem of_project_table_eq [Library] {document : Table} (h : toolTable? document = some entries) :
    ofProjectTable document = ofTable ("tool." ++ toolName) entries := by
  obtain ⟨tools, htools, hentries⟩ := tool_table_found h
  rw [ofProjectTable, htools]
  dsimp only
  rw [hentries]
  cases entries <;> rfl

/-- A document that can be read is there. -/
theorem exists_of_read {path : Path} (h : readDocument tree cwd path = .ok entries) :
    tree.existsAt cwd path = true := by
  obtain ⟨bytes, hbytes, -⟩ := bind_eq_ok.mp h
  unfold FileTree.read at hbytes
  split at hbytes
  case isTrue => cases hbytes
  case isFalse hnull =>
      rw [FileTree.existsAt, Bool.eq_false_iff.mpr hnull]
      cases hlookup : tree.lookup cwd path with
      | error cause =>
          rw [hlookup] at hbytes
          cases hbytes
      | ok found => rfl

/-- A project with a configuration file of its own has the configuration that the file holds. -/
theorem load_own [Library]
    (h : readDocument tree cwd (entryPath directory fileName) = .ok entries) :
    load tree cwd directory = ofTable "" entries := by
  rw [load, if_pos (exists_of_read h), h]
  rfl

/-- A project without such a file has the configuration in its general project file. -/
theorem load_project [Library] (habsent : tree.existsAt cwd (entryPath directory fileName) = false)
    {document : Table}
    (h : readDocument tree cwd (entryPath directory projectFileName) = .ok document) :
    load tree cwd directory = ofProjectTable document := by
  rw [load, if_neg (by simp [habsent]), if_pos (exists_of_read h), h]
  rfl

end Places

/-- A table in a file of its own and the same table in the tool's section of a general project file,
beside which there is no such file, give the same configuration, which is the default one if the table
is empty. Or both are refused with the same error, but for the path of the section in front of the
field that the error names. -/
theorem places_equivalent [Library] {tree other : FileTree} {cwd here : Location}
    {directory project : Path} {entries document : Table}
    (hown : readDocument tree cwd (entryPath directory fileName) = .ok entries)
    (habsent : other.existsAt here (entryPath project fileName) = false)
    (hdocument : readDocument other here (entryPath project projectFileName) = .ok document)
    (hsection : toolTable? document = some entries) :
    ((∃ config, load tree cwd directory = .ok config ∧ load other here project = .ok config) ∨
      ∃ error, load tree cwd directory = .error error ∧
        load other here project = .error (error.moved "tool.brslint.") ∧
        error.SameButFront "tool.brslint." (error.moved "tool.brslint.")) ∧
      (entries = [] → load tree cwd directory = .ok {}) := by
  have hfront : "tool." ++ toolName ++ "." = "tool.brslint." := by decide
  have hscope : ("tool." ++ toolName).isEmpty = false := by decide
  have hfirst : load tree cwd directory = ofTable "" entries := load_own hown
  have hsecond : load other here project =
      (ofTable "" entries).mapError (.moved "tool.brslint.") := by
    rw [load_project habsent hdocument, of_project_table_eq hsection, of_table_moved hscope, hfront]
  refine ⟨?_, ?_⟩
  · rw [hfirst, hsecond]
    cases ofTable "" entries with
    | ok config => exact .inl ⟨config, rfl, rfl⟩
    | error error => exact .inr ⟨error, rfl, rfl, error.same_but_front_moved _⟩
  · rintro rfl
    exact hfirst

/-- Whether the table holds a single truth value, at the given key. -/
def isSwitch (key : String) (flag : Bool) : Table → Bool
  | [(name, .bool b)] => name == key && b == flag
  | _ => false

/-- There is one such table. -/
theorem eq_of_is_switch {key : String} {flag : Bool} {entries : Table}
    (h : isSwitch key flag entries = true) : entries = [(key, .bool flag)] := by
  unfold isSwitch at h
  split at h
  case h_1 => simp_all
  case h_2 => cases h

/-- A truth value in place of the table on indentation, in a file of its own and in a section. -/
theorem places_equivalent_switch :
    let own := "indentation = true\n"
    let general := "[tool.brslint]\nindentation = true\n"
    let tree := FileTree.directory [(fileName, .file (Program.asciiBytes own.toList))]
    let other := FileTree.directory [(projectFileName, .file (Program.asciiBytes general.toList))]
    let directory := Path.ofString "."
    let entries : Table := [("indentation", .bool true)]
    let first := ConfigError.notTable "indentation"
    let second := ConfigError.notTable "tool.brslint.indentation"
    ∃ document, readDocument tree [] (entryPath directory fileName) = .ok entries ∧
      other.existsAt [] (entryPath directory fileName) = false ∧
      readDocument other [] (entryPath directory projectFileName) = .ok document ∧
      toolTable? document = some entries ∧
      load tree [] directory = .error (.config first) ∧
      load other [] directory = .error (.config second) ∧
      LintError.SameButFront "tool.brslint." (.config first) (.config second) := by
  intro own general tree other directory entries first second
  have hread : (readDocument tree [] (entryPath directory fileName)).toOption.any
      (isSwitch "indentation" true) = true := by decide +kernel
  have hfound : (readDocument other [] (entryPath directory projectFileName)).toOption.any
      (fun document => (toolTable? document).any (isSwitch "indentation" true)) = true := by
    decide +kernel
  have habsent : other.existsAt [] (entryPath directory fileName) = false := by decide +kernel
  have herror : load tree [] directory = .error (.config first) :=
    eq_error_of_map_unit (by decide +kernel)
  obtain ⟨found, hown, hswitch⟩ := (Option.any_eq_true _ _).mp hread
  obtain ⟨document, hdocument, hsection⟩ := (Option.any_eq_true _ _).mp hfound
  obtain ⟨held, hsection, hheld⟩ := (Option.any_eq_true _ _).mp hsection
  rw [to_option_eq_some] at hown hdocument
  rw [eq_of_is_switch hswitch] at hown
  rw [eq_of_is_switch hheld] at hsection
  obtain ⟨⟨config, hconfig, -⟩ | ⟨error, hfirst, hsecond, hsame⟩, -⟩ :=
    places_equivalent hown habsent hdocument hsection
  · cases herror.symm.trans hconfig
  · obtain rfl := Except.error.inj (herror.symm.trans hfirst)
    exact ⟨document, hown, habsent, hdocument, hsection, herror, hsecond, hsame⟩

end Config

end ChannelLint
