import ChannelLint.Proofs.JsonRoundTrip
import ChannelLint.Proofs.Verdict
import Mathlib.Algebra.Group.Int.Defs
import Mathlib.Data.List.Forall2

/-!
# JSON reports lose nothing

A JSON report has one object for each warning. It is made in two steps: the further fields of the
rule are taken as they are, and then the fields that every warning has are put in, in place of a
further field of the same name or at the end. `Table.keys_put_all` and `Table.get?_put_all` say what
comes of this, and `Report.json_lossless` that all of it can be read back from the report.
There is no report on an integer that is too long to be written: `Report.json_integer_too_long`.
-/

namespace ChannelLint

/-! ## Tables that are put together -/

/-- The entries of a table that JSON has. -/
theorem Value.IsNative.entries {entries : Table} (h : (Value.table entries).IsNative) :
    (entries.map Prod.fst).Nodup ∧ ∀ entry ∈ entries, entry.2.IsNative := by
  cases h with
  | table hkeys hvalues => exact ⟨hkeys, hvalues⟩

namespace Table

/-- A value stands at its key if the keys are distinct. -/
theorem get?_of_mem {entries : Table} (hkeys : (entries.map Prod.fst).Nodup)
    {entry : String × Value} (h : entry ∈ entries) : get? entry.1 entries = some entry.2 := by
  induction entries with
  | nil => cases h
  | cons head rest ih =>
      rw [List.map_cons, List.nodup_cons] at hkeys
      rcases List.mem_cons.mp h with rfl | h
      · simp [get?]
      · have hne : head.1 ≠ entry.1 :=
          fun heq => hkeys.1 (heq ▸ List.mem_map_of_mem h)
        simp [get?, hne, ih hkeys.2 h]

/-- A value that was put at a key stands there. -/
theorem get?_put_self (key : String) (value : Value) (entries : Table) :
    get? key (put key value entries) = some value := by
  fun_induction put key value entries with
  | case1 => simp [get?]
  | case2 k v rest hk => simp [get?, hk]
  | case3 k v rest hk ih => simp [get?, hk, ih]

/-- A new key comes last, and a known one stays in its place. -/
theorem keys_put (key : String) (value : Value) (entries : Table) :
    (put key value entries).map Prod.fst =
      if key ∈ entries.map Prod.fst then entries.map Prod.fst
      else entries.map Prod.fst ++ [key] := by
  fun_induction put key value entries with
  | case1 => rfl
  | case2 k v rest hk =>
      obtain rfl : k = key := by simpa using hk
      simp
  | case3 k v rest hk ih =>
      have hne : key ≠ k := fun h => hk (by simp [h])
      simp only [List.map_cons, ih, List.mem_cons, hne, false_or]
      split <;> rfl

/-- Putting values with distinct keys appends those keys that are new. -/
theorem keys_put_all {new : Table} (h : (new.map Prod.fst).Nodup) (entries : Table) :
    (putAll entries new).map Prod.fst =
      entries.map Prod.fst ++ (new.map Prod.fst).filter (· ∉ entries.map Prod.fst) := by
  induction new generalizing entries with
  | nil => simp [putAll]
  | cons entry new ih =>
      rw [List.map_cons, List.nodup_cons] at h
      have hstep : putAll entries (entry :: new) = putAll (put entry.1 entry.2 entries) new := rfl
      rw [hstep, ih h.2, keys_put, List.map_cons]
      split
      case isTrue hold => rw [List.filter_cons_of_neg (by simpa using hold)]
      case isFalse hnew =>
          have hothers : (new.map Prod.fst).filter (· ∉ entries.map Prod.fst ++ [entry.1]) =
              (new.map Prod.fst).filter (· ∉ entries.map Prod.fst) := by
            refine List.filter_congr fun key hkey => ?_
            have hne : key ≠ entry.1 := fun heq => h.1 (heq ▸ hkey)
            simp [hne]
          rw [hothers, List.filter_cons_of_pos (by simpa using hnew), List.append_assoc,
            List.singleton_append]

/-- Values with distinct keys are there after they were put, and everything else is as before. -/
theorem get?_put_all {new : Table} (h : (new.map Prod.fst).Nodup) (entries : Table) (key : String) :
    get? key (putAll entries new) = (get? key new).or (get? key entries) := by
  induction new generalizing entries with
  | nil => rfl
  | cons entry new ih =>
      rw [List.map_cons, List.nodup_cons] at h
      have hstep : putAll entries (entry :: new) = putAll (put entry.1 entry.2 entries) new := rfl
      by_cases hkey : entry.1 = key
      · subst hkey
        rw [hstep, get?_put_all_of_not_mem h.1, get?_put_self]
        simp [get?]
      · rw [hstep, ih h.2, get?_put_of_ne (Ne.symm hkey)]
        simp [get?, hkey]

/-- Keys stay distinct. -/
theorem nodup_put {entries : Table} (h : (entries.map Prod.fst).Nodup) (key : String)
    (value : Value) : ((put key value entries).map Prod.fst).Nodup := by
  rw [keys_put]
  split
  case isTrue => exact h
  case isFalse hnew =>
      exact h.append (List.nodup_singleton key) (List.disjoint_singleton.mpr hnew)

/-- Keys stay distinct, also when values are put at the same key. -/
theorem nodup_put_all {entries : Table} (h : (entries.map Prod.fst).Nodup) (new : Table) :
    ((putAll entries new).map Prod.fst).Nodup := by
  induction new generalizing entries with
  | nil => exact h
  | cons entry new ih => exact ih (nodup_put h entry.1 entry.2)

/-- Nothing but the new entry is put into a table. -/
theorem mem_put {key : String} {value : Value} {entries : Table} {entry : String × Value}
    (h : entry ∈ put key value entries) : entry = (key, value) ∨ entry ∈ entries := by
  fun_induction put key value entries with
  | case1 => simp_all
  | case2 k v rest hk =>
      obtain rfl : k = key := by simpa using hk
      exact (List.mem_cons.mp h).imp_right (List.mem_cons_of_mem _)
  | case3 k v rest hk ih =>
      rcases List.mem_cons.mp h with rfl | h
      · exact .inr List.mem_cons_self
      · exact (ih h).imp_right (List.mem_cons_of_mem _)

/-- What holds of all entries still holds after others of which it holds were put. -/
theorem forall_mem_put_all {P : String × Value → Prop} {entries new : Table}
    (hentries : ∀ entry ∈ entries, P entry) (hnew : ∀ entry ∈ new, P entry) :
    ∀ entry ∈ putAll entries new, P entry := by
  induction new generalizing entries with
  | nil => exact hentries
  | cons entry new ih =>
      obtain ⟨hentry, hothers⟩ := List.forall_mem_cons.mp hnew
      refine ih (fun other hother => ?_) hothers
      rcases mem_put hother with rfl | hother
      · exact hentry
      · exact hentries other hother

/-- Values that JSON has stay such when others are put. -/
theorem native_put_all {entries new : Table} (hentries : (Value.table entries).IsNative)
    (hnew : (Value.table new).IsNative) : (Value.table (putAll entries new)).IsNative := by
  obtain ⟨hkeys, hvalues⟩ := hentries.entries
  exact .table (nodup_put_all hkeys new) (forall_mem_put_all hvalues hnew.entries.2)

end Table

/-! ## Warnings -/

namespace MatchedText

/-- The fields of a match. A group that took no part in it is null. -/
def fields (found : MatchedText) : Table :=
  [("text", .string found.text),
   ("groups", .array (found.groups.map fun group => group.elim .null .string)),
   ("start", .integer found.start),
   ("end", .integer found.stop)]

/-- A match is shown by its fields. -/
theorem to_value_eq (found : MatchedText) : found.toValue = .table found.fields := by
  unfold toValue fields
  congr 5
  refine List.map_congr_left fun group _ => ?_
  cases group <;> rfl

/-- The fields of a match are such as JSON has. -/
theorem fields_native (found : MatchedText) : (Value.table found.fields).IsNative := by
  refine .table (by simp [fields]) ?_
  simp only [fields, List.forall_mem_cons]
  refine ⟨.string _, .array ?_, .integer _, .integer _, nofun⟩
  intro item hitem
  obtain ⟨group, -, rfl⟩ := List.mem_map.mp hitem
  cases group with
  | none => exact .null
  | some text => exact .string text

end MatchedText

namespace Warning

/-- The keys of the fields that every warning has. -/
def ownKeys : List String :=
  ["pattern", "case_sensitive", "include_comments", "disabled", "path", "line", "match"]

/-- The fields that every warning has. -/
def ownFields (warning : Warning) (path : String) : Table :=
  [("pattern", .string warning.rule.pattern),
   ("case_sensitive", .bool warning.rule.caseSensitive),
   ("include_comments", .bool warning.rule.includeComments),
   ("disabled", .bool warning.rule.disabled),
   ("path", .string path),
   ("line", .integer warning.line),
   ("match", warning.found.elim .null fun found => .table found.fields)]

/-- An object shows a warning: its keys are those of the further fields of the rule, in their order,
and behind them those own fields of the warning that are not among them; own fields have the values
of the warning, and all further fields have theirs. -/
structure Shows (cwd : Location) (root : Path) (warning : Warning) (object : Table) : Prop where
  keys : object.map Prod.fst = warning.rule.extra.map Prod.fst ++
    ownKeys.filter (· ∉ warning.rule.extra.map Prod.fst)
  distinct : (object.map Prod.fst).Nodup
  own : ∀ field ∈ warning.ownFields (reportPath cwd warning.path root),
    Table.get? field.1 object = some field.2
  extra : ∀ key ∉ ownKeys, Table.get? key object = Table.get? key warning.rule.extra

/-- The fields of a warning are the further fields of its rule, into which its own are put. -/
theorem to_table_eq (warning : Warning) (path : String) :
    warning.toTable path = Table.putAll warning.rule.extra (warning.ownFields path) := by
  unfold toTable ownFields
  cases warning.found with
  | none => rfl
  | some found =>
      dsimp only
      rw [found.to_value_eq]
      rfl

/-- The own fields of a warning are such as JSON has. -/
theorem own_fields_native (warning : Warning) (path : String) :
    (Value.table (warning.ownFields path)).IsNative := by
  have hkeys : ((warning.ownFields path).map Prod.fst).Nodup := by
    show ownKeys.Nodup
    decide
  refine .table hkeys ?_
  simp only [ownFields, List.forall_mem_cons]
  refine ⟨.string _, .bool _, .bool _, .bool _, .string _, .integer _, ?_, nofun⟩
  cases warning.found with
  | none => exact .null
  | some found => exact found.fields_native

/-- All fields of a warning. -/
theorem shows_to_table (cwd : Location) (root : Path) {warning : Warning}
    (h : (Value.table warning.rule.extra).IsNative) :
    warning.Shows cwd root (warning.toTable (reportPath cwd warning.path root)) := by
  have hkeys : ((warning.ownFields (reportPath cwd warning.path root)).map Prod.fst).Nodup :=
    (own_fields_native warning _).entries.1
  rw [to_table_eq]
  refine ⟨Table.keys_put_all hkeys _, Table.nodup_put_all h.entries.1 _, ?_, ?_⟩
  · intro field hfield
    rw [Table.get?_put_all hkeys, Table.get?_of_mem hkeys hfield]
    rfl
  · intro key hkey
    exact Table.get?_put_all_of_not_mem hkey _

end Warning

/-! ## Reports -/

namespace Report

/-- The document of a report in which the given objects stand for the warnings. -/
def documentOf (filesScanned : Int) (objects : List Table) : Value :=
  .table
    [("schema_version", .integer 1),
     ("tool", .table [("name", .string "brslint"), ("version", .string "0.1.0")]),
     ("files_scanned", .integer filesScanned),
     ("warnings", .array (objects.map .table))]

/-- A document with objects that JSON has is one itself. -/
theorem document_native (filesScanned : Int) {objects : List Table}
    (h : ∀ object ∈ objects, (Value.table object).IsNative) :
    (documentOf filesScanned objects).IsNative := by
  have htool : (Value.table
      [("name", .string "brslint"), ("version", .string "0.1.0")]).IsNative := by
    refine .table (by simp) ?_
    simp only [List.forall_mem_cons]
    exact ⟨.string _, .string _, nofun⟩
  refine .table (by simp) ?_
  simp only [List.forall_mem_cons]
  refine ⟨.integer _, htool, .integer _, .array ?_, nofun⟩
  intro item hitem
  obtain ⟨object, hobject, rfl⟩ := List.mem_map.mp hitem
  exact h object hobject

/-- There is no JSON report on warnings that cannot all be written. -/
theorem json_unwritable {cwd : Location} {root : Path} {warnings : List Warning}
    (hnull : ∀ warning ∈ warnings, warning.path.hasNull = false ∧ root.hasNull = false)
    (h : ¬ ∀ warning ∈ warnings, warning.isWritable = true) (filesScanned : Int) :
    json cwd root filesScanned warnings = .error .integerTooLong := by
  have hall : warnings.all Warning.isWritable = false := by
    rw [Bool.eq_false_iff, ne_eq, List.all_eq_true]
    exact h
  rw [json, with_paths_eq hnull, hall]
  rfl

/-- A JSON report on warnings with further fields such as JSON has is made exactly if all integers
in them can be written. When it is read, it gives back the number of files and, in the same order,
one object for each warning that shows all its fields. -/
theorem json_lossless (cwd : Location) (root : Path) (filesScanned : Int) {warnings : List Warning}
    (hnull : ∀ warning ∈ warnings, warning.path.hasNull = false ∧ root.hasNull = false)
    (hextra : ∀ warning ∈ warnings, (Value.table warning.rule.extra).IsNative) :
    ((∀ warning ∈ warnings, warning.isWritable = true) →
      ∃ text objects, json cwd root filesScanned warnings = .ok text ∧
        Json.parse? text = some (documentOf filesScanned objects) ∧
        List.Forall₂ (Warning.Shows cwd root) warnings objects) ∧
    ((¬ ∀ warning ∈ warnings, warning.isWritable = true) →
      json cwd root filesScanned warnings = .error .integerTooLong) := by
  refine ⟨fun hwritable => ?_, fun hunwritable => json_unwritable hnull hunwritable filesScanned⟩
  let objects := warnings.map fun warning =>
    warning.toTable (reportPath cwd warning.path root)
  have hdocument : document filesScanned
      (warnings.map fun warning => (reportPath cwd warning.path root, warning)) =
        documentOf filesScanned objects := by
    simp [document, documentOf, objects, schemaVersion, toolName, toolVersion]
  have hnative : ∀ object ∈ objects, (Value.table object).IsNative := by
    intro object hobject
    obtain ⟨warning, hwarning, rfl⟩ := List.mem_map.mp hobject
    rw [Warning.to_table_eq]
    exact Table.native_put_all (hextra warning hwarning) (Warning.own_fields_native warning _)
  have hshows : List.Forall₂ (Warning.Shows cwd root) warnings objects := by
    rw [List.forall₂_map_right_iff]
    exact List.forall₂_same.mpr fun warning hwarning =>
      Warning.shows_to_table cwd root (hextra warning hwarning)
  refine ⟨_, objects, json_eq hnull hwritable filesScanned, ?_, hshows⟩
  rw [hdocument]
  exact Json.parse?_pretty (document_native filesScanned hnative)

/-- A warning with a further field under a key of its own, one that holds characters of all kinds
and a nested one, and with a group that took no part in the match. -/
theorem json_lossless_nested :
    let extra : Table := [("line", .string "first"), ("note", .string "\"\\\n\u007fé😀"),
      ("links", .array [.integer (-30), .table [("a", .bool true)]])]
    let warning : Warning :=
      { rule := { pattern := "st(o)p|(x)", extra := extra }, path := .ofString "src/a.brs",
        line := 4, found := some { text := "stop", groups := [some "o", none], start := 7, stop := 11 } }
    let root := Path.ofString "src"
    (warning.path.hasNull = false ∧ root.hasNull = false) ∧ warning.isWritable = true ∧
      (Value.table warning.rule.extra).IsNative ∧
      ∃ text object, json ["p"] root 3 [warning] = .ok text ∧
        Json.parse? text = some (documentOf 3 [object]) ∧ warning.Shows ["p"] root object := by
  intro extra warning root
  have hnull : warning.path.hasNull = false ∧ root.hasNull = false := by decide +kernel
  have hwritable : warning.isWritable = true := by decide +kernel
  have hextra : (Value.table warning.rule.extra).IsNative := by
    have htable : (Value.table [("a", .bool true)]).IsNative :=
      .table (by simp) (by simpa using .bool true)
    refine .table (by simp [warning, extra]) ?_
    simp only [warning, extra, List.forall_mem_cons]
    refine ⟨.string _, .string _, .array ?_, nofun⟩
    simp only [List.forall_mem_cons]
    exact ⟨.integer _, htable, nofun⟩
  obtain ⟨text, objects, htext, hread, hshows⟩ :
      ∃ text objects, json ["p"] root 3 [warning] = .ok text ∧
        Json.parse? text = some (documentOf 3 objects) ∧
        List.Forall₂ (Warning.Shows ["p"] root) [warning] objects :=
    (json_lossless ["p"] root 3 (by simpa using hnull) (by simpa using hextra)).1
      (by simpa using hwritable)
  obtain ⟨object, rest, hobject, hrest, rfl⟩ := List.forall₂_cons_left_iff.mp hshows
  obtain rfl := List.forall₂_nil_left_iff.mp hrest
  exact ⟨hnull, hwritable, hextra, text, object, htext, hread, hobject⟩

/-- There is no report on an integer of 4301 digits. -/
theorem json_integer_too_long :
    let warning : Warning :=
      { rule := { pattern := "stop", extra := [("ref", .integer (10 ^ 4300))] },
        path := .ofString "a.brs", line := 0 }
    (Value.table warning.rule.extra).IsNative ∧
      json [] (.ofString ".") 1 [warning] = .error .integerTooLong := by
  intro warning
  refine ⟨.table (List.nodup_singleton "ref") ?_, by decide +kernel⟩
  exact List.forall_mem_singleton.mpr (.integer _)

end Report

end ChannelLint
