import ChannelLint.Proofs.DecimalText

/-!
# Values as JSON documents

The text of a value is a JSON document exactly if all floating-point numbers in the value are finite:
`Json.document_pretty_iff`. If they are, every part of the text is what the grammar has in its place
(`Json.derives_write`). If one is not, its name stands outside strings (`Json.names_write`), where a
document has none.
-/

namespace ChannelLint

/-! ## Finite values -/

/-- Whether the floating-point number is finite. -/
def Double.isFinite : Double → Bool
  | .finite _ _ _ => true
  | .nan | .infinity _ => false

mutual
/-- Whether all floating-point numbers in the value are finite. -/
def Value.isFinite : Value → Bool
  | .float x => x.isFinite
  | .array items => itemsAreFinite items
  | .table entries => entriesAreFinite entries
  | .null | .bool _ | .integer _ | .string _ | .moment _ => true

/-- Whether all floating-point numbers in the items of an array are finite. -/
def itemsAreFinite : List Value → Bool
  | [] => true
  | item :: rest => item.isFinite && itemsAreFinite rest

/-- Whether all floating-point numbers in the entries of a table are finite. -/
def entriesAreFinite : List (String × Value) → Bool
  | [] => true
  | (_, value) :: rest => value.isFinite && entriesAreFinite rest
end

/-- Items are finite if each of them is. -/
theorem items_are_finite_iff {items : List Value} :
    itemsAreFinite items = true ↔ ∀ item ∈ items, item.isFinite = true := by
  induction items with
  | nil => simp [itemsAreFinite]
  | cons item rest ih => simp [itemsAreFinite, ih]

/-- Entries are finite if each of them is. -/
theorem entries_are_finite_iff {entries : Table} :
    entriesAreFinite entries = true ↔ ∀ entry ∈ entries, entry.2.isFinite = true := by
  induction entries with
  | nil => simp [entriesAreFinite]
  | cons entry rest ih => simp [entriesAreFinite, ih]

/-- What holds of scalars, and of arrays and tables if it holds of the values in them, holds of all
values. -/
@[elab_as_elim]
theorem Value.nested {P : Value → Prop} (null : P .null) (bool : ∀ b, P (.bool b))
    (integer : ∀ n, P (.integer n)) (float : ∀ x, P (.float x)) (string : ∀ s, P (.string s))
    (moment : ∀ m, P (.moment m))
    (array : ∀ items, (∀ item ∈ items, P item) → P (.array items))
    (table : ∀ entries : Table, (∀ entry ∈ entries, P entry.2) → P (.table entries))
    (value : Value) : P value :=
  @Value.rec P (fun items => ∀ item ∈ items, P item) (fun entries => ∀ entry ∈ entries, P entry.2)
    (fun entry => P entry.2) null bool integer float string moment array table
    (List.forall_mem_nil _) (fun _ _ hitem hrest => List.forall_mem_cons.mpr ⟨hitem, hrest⟩)
    (List.forall_mem_nil _) (fun _ _ hentry hrest => List.forall_mem_cons.mpr ⟨hentry, hrest⟩)
    (fun _ _ hvalue => hvalue) value

namespace Json

/-! ## Strings -/

/-- A hexadecimal digit is one. -/
theorem hex_digit_of_lt {digit : Nat} (h : digit < 16) : IsHexDigit digit.digitChar := by
  unfold IsHexDigit
  revert digit
  decide

/-- An escaped unit may stand in a string. -/
theorem content_unit {unit : Nat} (h : unit < 0x10000) {rest : List Char} (hrest : IsContent rest) :
    IsContent (unitEscape unit ++ rest) := by
  rw [unitEscape, hex_digits_four h]
  refine .unit ?_ hrest
  simp only [List.forall_mem_cons]
  exact ⟨hex_digit_of_lt (by omega), hex_digit_of_lt (by omega), hex_digit_of_lt (by omega),
    hex_digit_of_lt (by omega), List.forall_mem_nil _⟩

/-- A character may stand in a string as it is written. -/
theorem content_char (c : Char) {rest : List Char} (h : IsContent rest) :
    IsContent (escapeChar c ++ rest) := by
  unfold escapeChar
  split_ifs with hmark hplain hline hreturn htab hback hfeed hsmall
  · obtain rfl | rfl : c = '"' ∨ c = '\\' := by simpa using hmark
    · exact .escape (by simp) h
    · exact .escape (by simp) h
  · simp only [Bool.or_eq_true, beq_iff_eq, not_or] at hmark
    exact .plain (by simp_all) hmark.1 hmark.2 h
  · exact .escape (by simp) h
  · exact .escape (by simp) h
  · exact .escape (by simp) h
  · exact .escape (by simp) h
  · exact .escape (by simp) h
  · exact content_unit hsmall h
  · have hcode := code_point c
    rw [List.append_assoc]
    exact content_unit (by omega) (content_unit (by omega) h)

/-- A text is written as a string. -/
theorem string_of_text (text : String) : IsString (writeString text) := by
  have hcontent : ∀ chars : List Char, IsContent (chars.flatMap escapeChar) := by
    intro chars
    induction chars with
    | nil => exact .nil
    | cons c chars ih => exact content_char c ih
  exact .quoted (hcontent text.toList)

/-! ## Texts of the grammar -/

section Grammar

variable {layout : Layout} (hlayout : layout.IsSpaced)
include hlayout

/-- The items of an array are elements, with gaps around them. -/
theorem elements_of_items (depth : Nat) {items : List Value} (hne : items ≠ [])
    (h : ∀ item ∈ items, Derives .value (write layout depth item)) {before after : List Char}
    (hbefore : IsGap before) (hafter : IsGap after) :
    Derives .elements (before ++ itemsText layout depth items ++ after) := by
  induction items generalizing before with
  | nil => exact absurd rfl hne
  | cons item others ih =>
      obtain ⟨hitem, hothers⟩ := List.forall_mem_cons.mp h
      cases others with
      | nil =>
          simp only [itemsText, writeItems, List.append_nil]
          exact .lastElement (.element hbefore hitem hafter)
      | cons next others =>
          obtain ⟨space, hbetween, hspace⟩ := hlayout.between depth
          have htext : before ++ itemsText layout depth (item :: next :: others) ++ after =
              (before ++ write layout depth item ++ []) ++
                ',' :: (space ++ itemsText layout depth (next :: others) ++ after) := by
            simp [itemsText, writeItems, hbetween]
          rw [htext]
          exact .nextElement (.element hbefore hitem (List.forall_mem_nil _)) (ih (by simp) hothers hspace)

/-- The entries of a table are members, with gaps around them. -/
theorem members_of_entries (depth : Nat) {entries : Table} (hne : entries ≠ [])
    (h : ∀ entry ∈ entries, Derives .value (write layout depth entry.2)) {before after : List Char}
    (hbefore : IsGap before) (hafter : IsGap after) :
    Derives .members (before ++ entriesText layout depth entries ++ after) := by
  obtain ⟨gap, hcolon, hgap⟩ := hlayout.colon
  induction entries generalizing before with
  | nil => exact absurd rfl hne
  | cons entry others ih =>
      obtain ⟨key, value⟩ := entry
      obtain ⟨hvalue, hothers⟩ := List.forall_mem_cons.mp h
      cases others with
      | nil =>
          have htext : before ++ entriesText layout depth [(key, value)] ++ after =
              before ++ writeString key ++ [] ++ ':' :: (gap ++ write layout depth value ++ after) := by
            simp [entriesText, writeEntries, hcolon]
          rw [htext]
          exact .lastMember hbefore (string_of_text key) (List.forall_mem_nil _)
            (.element hgap hvalue hafter)
      | cons next others =>
          obtain ⟨space, hbetween, hspace⟩ := hlayout.between depth
          have htext : before ++ entriesText layout depth ((key, value) :: next :: others) ++ after =
              before ++ writeString key ++ [] ++ ':' :: ((gap ++ write layout depth value ++ []) ++
                ',' :: (space ++ entriesText layout depth (next :: others) ++ after)) := by
            simp [entriesText, writeEntries, hbetween, hcolon]
          rw [htext]
          exact .nextMember hbefore (string_of_text key) (List.forall_mem_nil _)
            (.element hgap hvalue (List.forall_mem_nil _)) (ih (by simp) hothers hspace)

/-- A finite value is written as a value of the grammar. -/
theorem derives_write (value : Value) (h : value.isFinite = true) (depth : Nat) :
    Derives .value (write layout depth value) := by
  induction value using Value.nested generalizing depth with
  | null => exact .null
  | bool b =>
      cases b with
      | false => exact .false
      | true => exact .true
  | integer n => exact .number (number_of_integer n)
  | float x =>
      cases x with
      | nan => cases h
      | infinity negative => cases h
      | finite negative mantissa exponent =>
          exact .number (Double.number_of_finite negative mantissa exponent)
  | string s => exact .string (string_of_text s)
  | moment m => exact .string (string_of_text m.text)
  | array items ih =>
      rw [Value.isFinite, items_are_finite_iff] at h
      cases items with
      | nil => exact Derives.emptyArray (List.forall_mem_nil _)
      | cons item others =>
          have hitems := elements_of_items hlayout (depth + 1) (List.cons_ne_nil item others)
            (fun part hpart => ih part hpart (h part hpart) (depth + 1))
            (hlayout.opening (depth + 1)) (hlayout.closing depth)
          have htext : write layout depth (.array (item :: others)) =
              '[' :: (layout.opening (depth + 1) ++ itemsText layout (depth + 1) (item :: others) ++
                layout.closing depth ++ [']']) := by
            simp [write, itemsText]
          rw [htext]
          exact .array hitems
  | table entries ih =>
      rw [Value.isFinite, entries_are_finite_iff] at h
      cases entries with
      | nil => exact Derives.emptyObject (List.forall_mem_nil _)
      | cons entry others =>
          have hentries := members_of_entries hlayout (depth + 1) (List.cons_ne_nil entry others)
            (fun part hpart => ih part hpart (h part hpart) (depth + 1))
            (hlayout.opening (depth + 1)) (hlayout.closing depth)
          have htext : write layout depth (.table (entry :: others)) =
              '{' :: (layout.opening (depth + 1) ++
                entriesText layout (depth + 1) (entry :: others) ++
                  layout.closing depth ++ ['}']) := by
            simp [write, entriesText]
          rw [htext]
          exact .object hentries

end Grammar

/-! ## Names of numbers -/

/-- No string is open at the end of the text, and if so said, a letter that the name of a number which
is not finite starts with stands outside strings. -/
def Names (said : Prop) (text : List Char) : Prop :=
  ∃ shown, Shows text shown ∧ (said → 'N' ∈ shown ∨ 'I' ∈ shown)

/-- A text that names such a number is not one of the grammar. -/
theorem Names.not_unnamed {text : List Char} (h : Names True text) : ¬ Unnamed text := by
  rintro ⟨others, hothers, hletters⟩
  obtain ⟨shown, hshown, hnamed⟩ := h
  obtain rfl := hshown.unique hothers
  exact (hnamed trivial).elim hletters.1 hletters.2

/-- A text without such a letter says nothing. -/
theorem Unnamed.names {text : List Char} (h : Unnamed text) : Names False text := by
  obtain ⟨shown, hshown, -⟩ := h
  exact ⟨shown, hshown, False.elim⟩

/-- A text without quotes says nothing. -/
theorem names_unquoted {text : List Char} (h : '"' ∉ text) : Names False text :=
  ⟨text, shows_unquoted h, False.elim⟩

/-- A text may say less. -/
theorem Names.mono {text : List Char} {said other : Prop} (h : Names said text)
    (hless : other → said) : Names other text := by
  obtain ⟨shown, hshown, hsaid⟩ := h
  exact ⟨shown, hshown, fun hother => hsaid (hless hother)⟩

/-- A text that says nothing says nothing about a value that is finite. -/
theorem Names.silent {text : List Char} (h : Names False text) {finite : Bool}
    (hfinite : finite = true) : Names (finite = false) text := by
  subst hfinite
  exact h.mono Bool.noConfusion

/-- Two texts say what one of them says. -/
theorem Names.append {first second : List Char} {said other : Prop} (hfirst : Names said first)
    (hsecond : Names other second) : Names (said ∨ other) (first ++ second) := by
  obtain ⟨shown, hshown, hsaid⟩ := hfirst
  obtain ⟨others, hothers, hother⟩ := hsecond
  refine ⟨shown ++ others, hshown.append hothers, ?_⟩
  simp only [List.mem_append]
  rintro (h | h)
  · exact (hsaid h).imp .inl .inl
  · exact (hother h).imp .inr .inr

/-- A text without quotes in front changes nothing. -/
theorem Names.after {lead text : List Char} {said : Prop} (h : Names said text)
    (hlead : '"' ∉ lead) : Names said (lead ++ text) := by
  simpa using (names_unquoted hlead).append h

/-- A text without quotes behind changes nothing. -/
theorem Names.before {text tail : List Char} {said : Prop} (h : Names said text)
    (htail : '"' ∉ tail) : Names said (text ++ tail) := by
  simpa using h.append (names_unquoted htail)

/-- A string says nothing. -/
theorem names_string (text : String) : Names False (writeString text) :=
  (string_of_text text).unnamed.names

/-- There are no quotes in a gap. -/
theorem quote_not_mem_gap {gap : List Char} (h : IsGap gap) : '"' ∉ gap :=
  fun hmem => absurd (h _ hmem) (by decide)

section Naming

variable {layout : Layout} (hlayout : layout.IsSpaced)
include hlayout

/-- There are no quotes between parts. -/
theorem quote_not_mem_between (depth : Nat) : '"' ∉ layout.between depth := by
  obtain ⟨gap, hbetween, hgap⟩ := hlayout.between depth
  simp [hbetween, quote_not_mem_gap hgap]

/-- There are no quotes between a key and its value. -/
theorem quote_not_mem_colon : '"' ∉ layout.colon := by
  obtain ⟨gap, hcolon, hgap⟩ := hlayout.colon
  simp [hcolon, quote_not_mem_gap hgap]

/-- Items behind others say what each of them says. -/
theorem names_write_items (depth : Nat) {items : List Value}
    (h : ∀ item ∈ items, Names (item.isFinite = false) (write layout depth item)) :
    Names (itemsAreFinite items = false) (writeItems layout depth items) := by
  induction items with
  | nil => exact (names_unquoted List.not_mem_nil).silent rfl
  | cons item rest ih =>
      obtain ⟨hitem, hrest⟩ := List.forall_mem_cons.mp h
      have hall := (hitem.after (quote_not_mem_between hlayout depth)).append (ih hrest)
      rw [writeItems, itemsAreFinite]
      exact hall.mono Bool.and_eq_false_iff.mp

/-- An entry says what its value says. -/
theorem names_entry {lead : List Char} (hlead : '"' ∉ lead) (key : String) {text : List Char}
    {said : Prop} (h : Names said text) :
    Names said (lead ++ writeString key ++ layout.colon ++ text) := by
  have hkey := ((names_string key).after hlead).before (quote_not_mem_colon hlayout)
  exact (hkey.append h).mono .inr

/-- Entries behind others say what the value of each of them says. -/
theorem names_write_entries (depth : Nat) {entries : Table}
    (h : ∀ entry ∈ entries, Names (entry.2.isFinite = false) (write layout depth entry.2)) :
    Names (entriesAreFinite entries = false) (writeEntries layout depth entries) := by
  induction entries with
  | nil => exact (names_unquoted List.not_mem_nil).silent rfl
  | cons entry rest ih =>
      obtain ⟨hvalue, hrest⟩ := List.forall_mem_cons.mp h
      have hentry := names_entry hlayout (quote_not_mem_between hlayout depth) entry.1 hvalue
      rw [writeEntries, entriesAreFinite]
      exact (hentry.append (ih hrest)).mono Bool.and_eq_false_iff.mp

/-- A value that is not finite names a number that is not. -/
theorem names_write (value : Value) (depth : Nat) :
    Names (value.isFinite = false) (write layout depth value) := by
  induction value using Value.nested generalizing depth with
  | null =>
      rw [write]
      exact (names_unquoted (by decide)).silent rfl
  | bool b =>
      rw [write]
      cases b <;> exact (names_unquoted (by decide)).silent rfl
  | integer n =>
      exact (number_of_integer n).unnamed.names.silent rfl
  | float x =>
      cases x with
      | nan =>
          rw [write, writeFloat]
          exact ⟨_, shows_unquoted (by decide), fun _ => .inl (by decide)⟩
      | infinity negative =>
          rw [write, writeFloat]
          cases negative <;> exact ⟨_, shows_unquoted (by decide), fun _ => .inr (by decide)⟩
      | finite negative mantissa exponent =>
          exact (Double.number_of_finite negative mantissa exponent).unnamed.names.silent rfl
  | string s => exact (names_string s).silent rfl
  | moment m => exact (names_string m.text).silent rfl
  | array items ih =>
      cases items with
      | nil => exact (names_unquoted (by simp [write])).silent rfl
      | cons item others =>
          obtain ⟨hitem, hothers⟩ := List.forall_mem_cons.mp ih
          have hopening := quote_not_mem_gap (hlayout.opening (depth + 1))
          have hclosing := quote_not_mem_gap (hlayout.closing depth)
          have hfirst := (hitem (depth + 1)).after (List.not_mem_cons_of_ne_of_not_mem
            (show '"' ≠ '[' by decide) hopening)
          have hall := hfirst.append
            (names_write_items hlayout (depth + 1) fun part hpart => hothers part hpart _)
          rw [write, Value.isFinite, itemsAreFinite]
          exact ((hall.before hclosing).before (by decide)).mono Bool.and_eq_false_iff.mp
  | table entries ih =>
      cases entries with
      | nil => exact (names_unquoted (by simp [write])).silent rfl
      | cons entry others =>
          obtain ⟨hvalue, hothers⟩ := List.forall_mem_cons.mp ih
          have hopening := quote_not_mem_gap (hlayout.opening (depth + 1))
          have hclosing := quote_not_mem_gap (hlayout.closing depth)
          have hfirst := names_entry hlayout (List.not_mem_cons_of_ne_of_not_mem
            (show '"' ≠ '{' by decide) hopening) entry.1 (hvalue (depth + 1))
          have hall := hfirst.append
            (names_write_entries hlayout (depth + 1) fun part hpart => hothers part hpart _)
          rw [write, Value.isFinite, entriesAreFinite]
          exact ((hall.before hclosing).before (by decide)).mono Bool.and_eq_false_iff.mp

end Naming

/-- The text of a value, with a gap behind it, is a JSON document exactly if the value is finite. -/
theorem document_pretty_iff (value : Value) {gap : List Char} (hgap : IsGap gap) :
    IsDocument ((pretty value).toList ++ gap) ↔ value.isFinite = true := by
  rw [pretty, String.toList_ofList]
  constructor
  · intro h
    by_contra hnot
    have hnames := (names_write report_layout_spaced value 0).before (quote_not_mem_gap hgap)
    rw [Bool.not_eq_true] at hnot
    simp only [hnot] at hnames
    exact hnames.not_unnamed h.unnamed
  · intro h
    exact .element (List.forall_mem_nil _) (derives_write report_layout_spaced value h 0) hgap

end Json

end ChannelLint
