import ChannelLint.Config.Load
import ChannelLint.Proofs.JsonReport

/-!
# Documents without null

A configuration document has no way to write null, so nothing in the tables that are read from one is
null, at any depth: `Toml.parse_null_free`. The reader builds its tables with `Toml.updateAt`, which
brings in nothing but what it is given; values are read by four functions that call each other with
less fuel, and `Toml.Reads` says of all four at once what they return.
-/

namespace ChannelLint

/-- Nothing in the value is null. -/
inductive Value.NullFree : Value → Prop
  | bool (b : Bool) : NullFree (.bool b)
  | integer (n : Int) : NullFree (.integer n)
  | float (x : Double) : NullFree (.float x)
  | string (s : String) : NullFree (.string s)
  | moment (m : Moment) : NullFree (.moment m)
  | array {items : List Value} : (∀ item ∈ items, NullFree item) → NullFree (.array items)
  | table {entries : Table} : (∀ entry ∈ entries, NullFree entry.2) → NullFree (.table entries)

/-- Nothing in the entries is null. -/
def Table.NullFree (entries : Table) : Prop :=
  ∀ entry ∈ entries, entry.2.NullFree

namespace Value.NullFree

/-- The items of such an array are such values. -/
theorem items {items : List Value} (h : (Value.array items).NullFree) :
    ∀ item ∈ items, item.NullFree := by
  cases h with
  | array hitems => exact hitems

/-- The entries of such a table are such entries. -/
theorem entries {entries : Table} (h : (Value.table entries).NullFree) :
    Table.NullFree entries := by
  cases h with
  | table hentries => exact hentries

end Value.NullFree

namespace Table

/-- There is nothing in a table without entries. -/
theorem null_free_nil : NullFree [] :=
  fun _ hmem => nomatch hmem

/-- A value that is found in a table is the value of an entry. -/
theorem mem_of_get? {key : String} {value : Value} {entries : Table}
    (h : get? key entries = some value) : (key, value) ∈ entries := by
  fun_induction get? key entries with
  | case1 => cases h
  | case2 k v rest hk =>
      obtain rfl : k = key := by simpa using hk
      cases h
      exact List.mem_cons_self
  | case3 k v rest hk ih => exact List.mem_cons_of_mem _ (ih h)

/-- What is found in such a table is such a value. -/
theorem NullFree.get? {entries : Table} (h : NullFree entries) {key : String} {value : Value}
    (hvalue : Table.get? key entries = some value) : value.NullFree :=
  h _ (mem_of_get? hvalue)

/-- Such a value may be put into such a table. -/
theorem NullFree.put {entries : Table} (h : NullFree entries) (key : String) {value : Value}
    (hvalue : value.NullFree) : NullFree (Table.put key value entries) := by
  intro entry hentry
  rcases mem_put hentry with rfl | hmem
  · exact hvalue
  · exact h entry hmem

end Table

namespace Toml

/-! ## Definitions -/

/-- A change of tables that brings in no null. -/
def KeepsNullFree (change : Table → Except DocumentCause Table) : Prop :=
  ∀ before after : Table, before.NullFree → change before = .ok after → after.NullFree

/-- A change that brings in no null may be made at any key path. -/
theorem KeepsNullFree.update_at (throughArrays : Bool) {change : Table → Except DocumentCause Table}
    (h : KeepsNullFree change) (key : Key) : KeepsNullFree (updateAt throughArrays change key) := by
  induction key with
  | nil => exact h
  | cons part rest ih =>
      intro before after hbefore hafter
      have hthere : ((Table.get? part before).getD (.table [])).NullFree := by
        cases hget : Table.get? part before with
        | none => exact .table Table.null_free_nil
        | some value => exact hbefore.get? hget
      rw [updateAt] at hafter
      split at hafter
      case h_1 inner hinner =>
          obtain ⟨changed, hchanged, hafter⟩ := bind_eq_ok.mp hafter
          cases hafter
          rw [hinner] at hthere
          exact hbefore.put part (.table (ih _ _ hthere.entries hchanged))
      case h_2 items hitems =>
          rw [hitems] at hthere
          split at hafter
          case h_1 inner hlast =>
              -- only the last table of the array is changed
              obtain ⟨changed, hchanged, hafter⟩ := bind_eq_ok.mp hafter
              cases hafter
              have hinner : (Value.table inner).NullFree :=
                hthere.items _ (List.mem_of_getLast? hlast)
              have hothers : ∀ item ∈ items.dropLast, item.NullFree := fun item hitem =>
                hthere.items item ((List.dropLast_prefix items).subset hitem)
              have hlast : ∀ item ∈ [Value.table changed], item.NullFree :=
                List.forall_mem_singleton.mpr (.table (ih _ _ hinner.entries hchanged))
              exact hbefore.put part (.array (List.forall_mem_append.mpr ⟨hothers, hlast⟩))
          case h_2 => cases hafter
      case h_3 => cases hafter

/-- A value that is defined is brought in. -/
theorem keeps_define (taken : DocumentCause) (key : String) {value : Value}
    (h : value.NullFree) : KeepsNullFree (define taken key value) := by
  intro before after hbefore hafter
  unfold define at hafter
  split at hafter
  · cases hafter
  · cases hafter
    exact hbefore.put key h

/-- An empty table is brought in at the end of an array. -/
theorem keeps_append_table (key : String) : KeepsNullFree (appendTable key) := by
  intro before after hbefore hafter
  have hempty : (Value.table []).NullFree := .table Table.null_free_nil
  unfold appendTable at hafter
  split at hafter
  case h_1 =>
      cases hafter
      exact hbefore.put key (.array (List.forall_mem_singleton.mpr hempty))
  case h_2 items hitems =>
      cases hafter
      have hall : ∀ item ∈ items ++ [.table []], item.NullFree := List.forall_mem_append.mpr
        ⟨(hbefore.get? hitems).items, List.forall_mem_singleton.mpr hempty⟩
      exact hbefore.put key (.array hall)
  case h_3 => cases hafter

namespace Store

variable {store next : Store} (h : store.data.NullFree)
include h

/-- Declaring a table brings in no null. -/
theorem declare_table_null_free {key : Key} (hnext : store.declareTable key = .ok next) :
    next.data.NullFree := by
  unfold declareTable at hnext
  split at hnext
  · cases hnext
  · obtain ⟨data, hdata, hnext⟩ := bind_eq_ok.mp hnext
    cases hnext
    refine KeepsNullFree.update_at true (fun _ _ hbefore hafter => ?_) key _ _ h hdata
    cases hafter
    exact hbefore

/-- Declaring a table of an array brings in no null. -/
theorem declare_array_null_free {key : Key} (hnext : store.declareArray key = .ok next) :
    next.data.NullFree := by
  unfold declareArray at hnext
  split at hnext
  · cases hnext
  · obtain ⟨data, hdata, hnext⟩ := bind_eq_ok.mp hnext
    cases hnext
    exact (keeps_append_table _).update_at true _ _ _ h hdata

/-- Defining a value brings in that value. -/
theorem define_value_null_free {header key : Key} {value : Value} (hvalue : value.NullFree)
    (hnext : store.defineValue header key value = .ok next) : next.data.NullFree := by
  unfold defineValue at hnext
  dsimp only at hnext
  split at hnext
  · cases hnext
  · split at hnext
    · cases hnext
    · obtain ⟨data, hdata, hnext⟩ := bind_eq_ok.mp hnext
      cases hnext
      exact (keeps_define _ _ hvalue).update_at true _ _ _ h hdata

end Store

/-! ## Values -/

/-- A step on definitions that does not fail does what it does. -/
theorem definition_eq_ok {α : Type} {rest : List Char} {step : Except DocumentCause α} {a : α} :
    definition rest step = .ok a ↔ step = .ok a := by
  cases step <;> simp [definition, fail]

/-- A decimal number is an integer or a floating-point number. -/
theorem read_decimal?_null_free {negative : Bool} {text rest : List Char} {value : Value}
    (h : readDecimal? negative text = some (.ok (value, rest))) : value.NullFree := by
  unfold readDecimal? at h
  dsimp only at h
  split at h
  · cases h
  · split at h
    · split at h
      · cases h
      · cases h
        exact .integer _
    · cases h
      exact .float _

/-- A number with a base is an integer. -/
theorem read_based?_null_free {text rest : List Char} {value : Value}
    (h : readBased? text = some (value, rest)) : value.NullFree := by
  unfold readBased? at h
  split at h
  · split at h
    · dsimp only at h
      split at h
      · cases h
      · cases h
        exact .integer _
    · cases h
  · cases h

/-- A number is an integer or a floating-point number. -/
theorem read_number?_null_free {text rest : List Char} {value : Value}
    (h : readNumber? text = some (.ok (value, rest))) : value.NullFree := by
  unfold readNumber? at h
  split at h
  case h_1 result hbased =>
      obtain rfl : result = (value, rest) := by simpa using h
      exact read_based?_null_free hbased
  case h_2 => split at h <;> exact read_decimal?_null_free h

/-- A number that is not finite is a floating-point number. -/
theorem read_special?_null_free {text rest : List Char} {value : Value}
    (h : readSpecial? text = some (value, rest)) : value.NullFree := by
  unfold readSpecial? at h
  dsimp only at h
  split at h
  · cases h
    exact .float _
  · cases h
    exact .float _
  · cases h

/-- A date or time is one. -/
theorem read_moment?_null_free {text rest : List Char} {value : Value}
    (h : readMoment? text = some (.ok (value, rest))) : value.NullFree := by
  unfold readMoment? at h
  split at h
  · split at h
    · cases h
    · split at h
      · cases h
        exact .moment _
      · split at h <;> cases h <;> exact .moment _
  · obtain ⟨⟨time, after⟩, -, heq⟩ := Option.map_eq_some_iff.mp h
    cases heq
    exact .moment _

/-- A value that is neither an array nor an inline table is not null. -/
theorem read_scalar_null_free {text rest : List Char} {value : Value}
    (h : readScalar text = .ok (value, rest)) : value.NullFree := by
  have hstring : ∀ {read : Except Fault (List Char × List Char)},
      (read.map fun parts => (Value.string (String.ofList parts.1), parts.2)) =
        .ok (value, rest) → value.NullFree := by
    intro read hread
    cases read with
    | error fault => cases hread
    | ok result =>
        cases hread
        exact .string _
  unfold readScalar at h
  dsimp only at h
  split_ifs at h
  · exact hstring h
  · exact hstring h
  · exact hstring h
  · exact hstring h
  · cases h
    exact .bool _
  · cases h
    exact .bool _
  · split at h
    case h_1 result hmoment =>
        subst h
        exact read_moment?_null_free hmoment
    case h_2 =>
        split at h
        case h_1 result hnumber =>
            subst h
            exact read_number?_null_free hnumber
        case h_2 =>
            split at h
            case h_1 result hspecial =>
                cases h
                exact read_special?_null_free hspecial
            case h_2 => cases h

/-- What is read with the given fuel brings in no null. -/
structure Reads (fuel : Nat) : Prop where
  value {text rest : List Char} {value : Value} :
    readValue fuel text = .ok (value, rest) → value.NullFree
  items {before items : List Value} {text rest : List Char} :
    (∀ item ∈ before, item.NullFree) → readItems fuel before text = .ok (items, rest) →
      ∀ item ∈ items, item.NullFree
  entries {frozen : List Key} {before entries : Table} {text rest : List Char} :
    before.NullFree → readEntries fuel frozen before text = .ok (entries, rest) → entries.NullFree
  pair {key : Key} {value : Value} {text rest : List Char} :
    readPair fuel text = .ok (key, value, rest) → value.NullFree

namespace Reads

variable {fuel : Nat} (h : Reads fuel)
include h

/-- A value is a scalar, or it is made of items or of entries. -/
theorem value_succ {text rest : List Char} {value : Value}
    (hread : readValue (fuel + 1) text = .ok (value, rest)) : value.NullFree := by
  rw [readValue.eq_def] at hread
  dsimp only at hread
  split at hread
  · obtain ⟨⟨items, after⟩, hitems, hread⟩ := bind_eq_ok.mp hread
    cases hread
    exact .array (h.items (List.forall_mem_nil _) hitems)
  · split at hread
    · cases hread
      exact .table Table.null_free_nil
    · obtain ⟨⟨entries, after⟩, hentries, hread⟩ := bind_eq_ok.mp hread
      cases hread
      exact .table (h.entries Table.null_free_nil hentries)
  · exact read_scalar_null_free hread

/-- Items are read one after the other. -/
theorem items_succ {before items : List Value} {text rest : List Char}
    (hbefore : ∀ item ∈ before, item.NullFree)
    (hread : readItems (fuel + 1) before text = .ok (items, rest)) :
    ∀ item ∈ items, item.NullFree := by
  rw [readItems] at hread
  obtain ⟨start, -, hread⟩ := bind_eq_ok.mp hread
  split at hread
  · cases hread
    exact hbefore
  · obtain ⟨⟨item, after⟩, hitem, hread⟩ := bind_eq_ok.mp hread
    have hall : ∀ other ∈ before ++ [item], other.NullFree := List.forall_mem_append.mpr
      ⟨hbefore, List.forall_mem_singleton.mpr (h.value hitem)⟩
    obtain ⟨behind, -, hread⟩ := bind_eq_ok.mp hread
    split at hread
    · cases hread
      exact hall
    · exact h.items hall hread
    · cases hread

/-- Entries are read one after the other. -/
theorem entries_succ {frozen : List Key} {before entries : Table} {text rest : List Char}
    (hbefore : before.NullFree)
    (hread : readEntries (fuel + 1) frozen before text = .ok (entries, rest)) :
    entries.NullFree := by
  rw [readEntries] at hread
  obtain ⟨⟨key, value, behind⟩, hpair, hread⟩ := bind_eq_ok.mp hread
  dsimp only at hread
  split at hread
  · cases hread
  · obtain ⟨defined, hdefined, hread⟩ := bind_eq_ok.mp hread
    have hall : defined.NullFree := (keeps_define _ _ (h.pair hpair)).update_at false _ _ _ hbefore
      (definition_eq_ok.mp hdefined)
    split at hread
    · cases hread
      exact hall
    · exact h.entries hall hread
    · cases hread

/-- A pair has the value behind its key. -/
theorem pair_succ {key : Key} {value : Value} {text rest : List Char}
    (hread : readPair (fuel + 1) text = .ok (key, value, rest)) : value.NullFree := by
  rw [readPair] at hread
  obtain ⟨⟨name, behind⟩, -, hread⟩ := bind_eq_ok.mp hread
  dsimp only at hread
  split at hread
  · obtain ⟨⟨found, after⟩, hfound, hread⟩ := bind_eq_ok.mp hread
    cases hread
    exact h.value hfound
  · cases hread

end Reads

/-- Nothing that is read with any fuel brings in null. -/
theorem reads_null_free (fuel : Nat) : Reads fuel := by
  induction fuel with
  | zero =>
      constructor
      · intro text rest value h
        simp [readValue, fail] at h
      · intro before items text rest _ h
        simp [readItems, fail] at h
      · intro frozen before entries text rest _ h
        simp [readEntries, fail] at h
      · intro key value text rest h
        simp [readPair, fail] at h
  | succ fuel ih =>
      exact ⟨ih.value_succ, ih.items_succ, ih.entries_succ, ih.pair_succ⟩

/-! ## Statements -/

/-- A statement brings in no null. -/
theorem read_statement_null_free {store next : Store} {header under : Key} {text rest : List Char}
    (h : store.data.NullFree) (hread : readStatement store header text = .ok (next, under, rest)) :
    next.data.NullFree := by
  have hheader : store.atHeader.data.NullFree := h
  unfold readStatement at hread
  split at hread
  · unfold readArrayHeader at hread
    obtain ⟨⟨key, behind⟩, -, hread⟩ := bind_eq_ok.mp hread
    obtain ⟨declared, hdeclared, hread⟩ := bind_eq_ok.mp hread
    have hnext := Store.declare_array_null_free hheader (definition_eq_ok.mp hdeclared)
    split at hread <;> cases hread
    exact hnext
  · unfold readTableHeader at hread
    obtain ⟨⟨key, behind⟩, -, hread⟩ := bind_eq_ok.mp hread
    obtain ⟨declared, hdeclared, hread⟩ := bind_eq_ok.mp hread
    have hnext := Store.declare_table_null_free hheader (definition_eq_ok.mp hdeclared)
    split at hread <;> cases hread
    exact hnext
  · cases hread
    exact h
  · split at hread
    · obtain ⟨⟨key, value, behind⟩, hpair, hread⟩ := bind_eq_ok.mp hread
      obtain ⟨defined, hdefined, hread⟩ := bind_eq_ok.mp hread
      cases hread
      exact Store.define_value_null_free h ((reads_null_free _).pair hpair)
        (definition_eq_ok.mp hdefined)
    · cases hread
  · cases hread
    exact h

/-- Statements bring in no null. -/
theorem read_statements_null_free {fuel : Nat} {store : Store} {header : Key} {text : List Char}
    {entries : Table} (h : store.data.NullFree)
    (hread : readStatements fuel store header text = .ok entries) : entries.NullFree := by
  induction fuel generalizing store header text with
  | zero =>
      cases hread
      exact h
  | succ fuel ih =>
      rw [readStatements] at hread
      split at hread
      · cases hread
        exact h
      · exact ih h hread
      · obtain ⟨⟨next, under, behind⟩, hstatement, hread⟩ := bind_eq_ok.mp hread
        obtain ⟨after, -, hread⟩ := bind_eq_ok.mp hread
        have hnext := read_statement_null_free h hstatement
        split at hread
        · cases hread
          exact hnext
        · exact ih hnext hread
        · cases hread

/-- Nothing in the tables of a document is null. -/
theorem parse_null_free {text : List Char} {entries : Table} (h : parse text = .ok entries) :
    entries.NullFree := by
  unfold parse at h
  split at h
  case h_1 hread =>
      cases h
      exact read_statements_null_free Table.null_free_nil hread
  case h_2 => cases h
  case h_3 => cases h

end Toml

end ChannelLint
