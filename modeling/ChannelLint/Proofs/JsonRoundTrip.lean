import ChannelLint.Json.Reader
import ChannelLint.Json.Writer
import Mathlib.Data.List.Nodup
import Mathlib.Tactic.SplitIfs

/-!
# Reading JSON that was written

What is written as JSON is read back as it was: `Json.parse?_pretty`. This holds of values made of
null, truth values, integers, strings, arrays and tables without repeated keys, which are the
`Value.IsNative` ones. Strings are read in two steps, so their proof has two: escapes become UTF-16
units (`read_units_string`), and units become characters (`join_units_string`). For arrays and
tables the reader needs fuel; the length of the text is enough of it.
-/

namespace ChannelLint

/-- The value is made of what JSON has, and no table repeats a key. -/
inductive Value.IsNative : Value → Prop
  | null : IsNative .null
  | bool (b : Bool) : IsNative (.bool b)
  | integer (n : Int) : IsNative (.integer n)
  | string (s : String) : IsNative (.string s)
  | array {items : List Value} : (∀ item ∈ items, IsNative item) → IsNative (.array items)
  | table {entries : Table} : (entries.map Prod.fst).Nodup → (∀ entry ∈ entries, IsNative entry.2) →
      IsNative (.table entries)

/-- A new key comes last. -/
theorem Table.put_of_not_mem {key : String} {entries : Table} (h : key ∉ entries.map Prod.fst)
    (value : Value) : put key value entries = entries ++ [(key, value)] := by
  induction entries with
  | nil => rfl
  | cons entry entries ih =>
      simp only [List.map_cons, List.mem_cons, not_or] at h
      have hkey : (entry.1 == key) = false := by simpa using Ne.symm h.1
      simp [put, hkey, ih h.2]

namespace Json

open Text (hexDigits ofDigits)

/-! ## Strings -/

/-- The UTF-16 units of a character. -/
def unitsOf (c : Char) : List Nat :=
  if c.toNat < 0x10000 then [c.toNat]
  else [0xd800 + (c.toNat - 0x10000) / 0x400, 0xdc00 + (c.toNat - 0x10000) % 0x400]

/-- The last of several hexadecimal digits. -/
theorem hex_digits_succ {length : Nat} (h : 0 < length) (value : Nat) :
    hexDigits (length + 1) value =
      hexDigits length (value / 16) ++ [(value % 16).digitChar] := by
  unfold hexDigits
  by_cases hvalue : value < 16
  · obtain ⟨shorter, rfl⟩ := Nat.exists_eq_add_of_lt h
    simp [Nat.toDigits_of_lt_base, hvalue, Nat.div_eq_of_lt, Nat.mod_eq_of_lt,
      List.replicate_succ']
  · rw [Nat.toDigits_of_base_le (by decide) (by omega)]
    simp

/-- Four hexadecimal digits spell a number below `0x10000`. -/
theorem hex_digits_four {unit : Nat} (h : unit < 0x10000) :
    hexDigits 4 unit = [(unit / 16 / 16 / 16).digitChar, (unit / 16 / 16 % 16).digitChar,
      (unit / 16 % 16).digitChar, (unit % 16).digitChar] := by
  have hfirst : hexDigits 1 (unit / 16 / 16 / 16) = [(unit / 16 / 16 / 16).digitChar] := by
    simp only [hexDigits, Nat.toDigits_of_lt_base (show unit / 16 / 16 / 16 < 16 by omega)]
    rfl
  rw [hex_digits_succ (by decide), hex_digits_succ (by decide), hex_digits_succ (by decide), hfirst]
  rfl

/-- A hexadecimal digit has the value that it was made from. -/
theorem hex_value_digit_char {digit : Nat} (h : digit < 16) :
    hexValue? digit.digitChar = some digit := by
  revert digit
  decide

/-- An escaped unit is read back. -/
theorem read_units_escape {unit : Nat} (h : unit < 0x10000) (rest : List Char) :
    readUnits (unitEscape unit ++ rest) =
      (readUnits rest).map fun (units, rest) => (unit :: units, rest) := by
  have hvalue : unit? (unit / 16 / 16 / 16).digitChar (unit / 16 / 16 % 16).digitChar
      (unit / 16 % 16).digitChar (unit % 16).digitChar = some unit := by
    have hfirst : unit / 16 / 16 / 16 < 16 := by omega
    have hsum : ofDigits 16 [unit / 16 / 16 / 16, unit / 16 / 16 % 16, unit / 16 % 16, unit % 16] =
        unit := by
      simp only [ofDigits, List.foldl_cons, List.foldl_nil]
      omega
    simp [unit?, hex_value_digit_char, Nat.mod_lt, hfirst, hsum]
  rw [unitEscape, hex_digits_four h]
  simp only [List.cons_append, List.nil_append, readUnits, hvalue]
  cases readUnits rest <;> rfl

/-- An escape of one letter is read back. -/
theorem read_units_letter {c letter : Char} (h : simpleEscape? letter = some c.toNat)
    (hsmall : c.toNat < 0x10000) (rest : List Char) :
    readUnits ('\\' :: letter :: rest) =
      (readUnits rest).map fun (units, rest) => (unitsOf c ++ units, rest) := by
  have hunit : letter ≠ 'u' := by
    rintro rfl
    cases h
  rw [readUnits.eq_3 _ _ (by simp [hunit]), h, unitsOf, if_pos hsmall]
  cases readUnits rest <;> rfl

/-- A character that stands for itself is read back. -/
theorem read_units_plain {c : Char} (hmark : c ≠ '"' ∧ c ≠ '\\')
    (hplain : 0x20 ≤ c.toNat ∧ c.toNat ≤ 0x7e) (rest : List Char) :
    readUnits (c :: rest) =
      (readUnits rest).map fun (units, rest) => (unitsOf c ++ units, rest) := by
  rw [readUnits.eq_4 _ _ (by simp [hmark]) (by simp [hmark]) (by simp [hmark]),
    if_neg (by omega), unitsOf, if_pos (by omega)]
  cases readUnits rest <;> rfl

/-- A character is a code point that is no UTF-16 surrogate. -/
theorem code_point (c : Char) :
    c.toNat < 0xd800 ∨ 0xdfff < c.toNat ∧ c.toNat < 0x110000 :=
  c.valid

/-- A character is read back as its UTF-16 units. -/
theorem read_units_char (c : Char) (rest : List Char) :
    readUnits (escapeChar c ++ rest) =
      (readUnits rest).map fun (units, rest) => (unitsOf c ++ units, rest) := by
  unfold escapeChar
  split_ifs with hmark hplain hline hreturn htab hback hfeed hsmall
  · obtain rfl | rfl : c = '"' ∨ c = '\\' := by simpa using hmark
    · exact read_units_letter rfl (by decide) rest
    · exact read_units_letter rfl (by decide) rest
  · exact read_units_plain (by simpa using hmark) (by simpa using hplain) rest
  · exact read_units_letter (by simp_all [simpleEscape?]) (by simp_all) rest
  · exact read_units_letter (by simp_all [simpleEscape?]) (by simp_all) rest
  · exact read_units_letter (by simp_all [simpleEscape?]) (by simp_all) rest
  · exact read_units_letter (by simp_all [simpleEscape?]) (by simp_all) rest
  · exact read_units_letter (by simp_all [simpleEscape?]) (by simp_all) rest
  · rw [read_units_escape hsmall, unitsOf, if_pos hsmall]
    rfl
  · have hcode := code_point c
    rw [List.append_assoc, read_units_escape (by omega), read_units_escape (by omega), unitsOf,
      if_neg hsmall, Option.map_map]
    rfl

/-- A string is read back as UTF-16 units. -/
theorem read_units_string (text rest : List Char) :
    readUnits (text.flatMap escapeChar ++ '"' :: rest) = some (text.flatMap unitsOf, rest) := by
  induction text with
  | nil => rfl
  | cons c text ih =>
      rw [List.flatMap_cons, List.append_assoc, read_units_char, ih]
      rfl

/-- The units of a character are joined to the character, whatever follows. -/
theorem join_units_char (c : Char) (units : List Nat) :
    joinUnits (unitsOf c ++ units) = c :: joinUnits units := by
  have hcode := code_point c
  unfold unitsOf
  split
  case isTrue hsmall =>
      -- no surrogate starts a pair, so the unit after it does not matter
      cases units with
      | nil => simp [joinUnits]
      | cons unit units =>
          rw [List.singleton_append, joinUnits, if_neg, Char.ofNat_toNat]
          simp only [Bool.and_eq_true, decide_eq_true_eq]
          omega
  case isFalse hlarge =>
      rw [List.cons_append, List.singleton_append, joinUnits, if_pos]
      · have hvalue : 0x10000 + (0xd800 + (c.toNat - 0x10000) / 0x400 - 0xd800) * 0x400 +
            (0xdc00 + (c.toNat - 0x10000) % 0x400 - 0xdc00) = c.toNat := by omega
        rw [hvalue, Char.ofNat_toNat]
      · simp only [Bool.and_eq_true, decide_eq_true_eq]
        omega

/-- The units of a text are joined to the text. -/
theorem join_units_string (text : List Char) : joinUnits (text.flatMap unitsOf) = text := by
  induction text with
  | nil => rfl
  | cons c text ih => rw [List.flatMap_cons, join_units_char, ih]

/-- A string is read back. -/
theorem read_string_write (text : String) (rest : List Char) :
    readString (text.toList.flatMap escapeChar ++ '"' :: rest) = some (text, rest) := by
  simp [readString, read_units_string, join_units_string]

/-! ## Integers -/

/-- Nothing that could go on with an integer stands at the front of the text. -/
def EndsNumber (rest : List Char) : Prop :=
  ∀ c ∈ rest.head?, c.isDigit = false ∧ c ≠ '.' ∧ c ≠ 'e' ∧ c ≠ 'E'

/-- The digits of a number. -/
def digitsOf (n : Nat) : List Nat :=
  (Nat.toDigits 10 n).map fun c => c.toNat - 48

/-- The digits of a number give the number. -/
theorem of_digits_digits_of (n : Nat) : ofDigits 10 (digitsOf n) = n := by
  have hfold := Nat.ofDigitChars_ten_toDigits (n := n)
  rw [Nat.ofDigitChars_eq_foldl] at hfold
  simpa [ofDigits, digitsOf, List.foldl_map, Nat.mul_comm] using hfold

/-- The digits of a positive number do not start with zero. -/
theorem head_digits_of {n : Nat} (h : 0 < n) : (digitsOf n).head? ≠ some 0 := by
  induction n using Nat.strongRecOn with
  | ind n ih =>
      unfold digitsOf
      by_cases hsmall : n < 10
      · simp only [Nat.toDigits_of_lt_base hsmall, List.map_cons, List.head?_cons, ne_eq,
          Option.some.injEq, Nat.toNat_digitChar_sub_48_of_lt_ten hsmall]
        omega
      · rw [Nat.toDigits_of_base_le (by decide) (by omega), List.map_append,
          List.head?_append_of_ne_nil _ (by simp [Nat.toDigits_ne_nil])]
        exact ih (n / 10) (by omega) (by omega)

/-- The digits of a number are read up to its end. -/
theorem read_digits_write (n : Nat) {rest : List Char} (h : EndsNumber rest) :
    readDigits (Nat.toDigits 10 n ++ rest) = some (digitsOf n, rest) := by
  have hdigits : (Nat.toDigits 10 n ++ rest).takeWhile Char.isDigit = Nat.toDigits 10 n := by
    have hall : ∀ c ∈ Nat.toDigits 10 n, c.isDigit = true :=
      fun c hc => Nat.isDigit_of_mem_toDigits (by decide) (by decide) hc
    rw [List.takeWhile_append_of_pos hall]
    cases rest with
    | nil => simp
    | cons c rest => simp [(h c rfl).1]
  simp only [readDigits, hdigits, List.drop_left]
  simp [digitsOf, Nat.toDigits_ne_nil]

/-- A natural number is read back, with the sign that stood before it. -/
theorem read_unsigned_write (negative : Bool) (n : Nat) {rest : List Char} (h : EndsNumber rest) :
    readUnsigned negative (Nat.toDigits 10 n ++ rest) =
      some (.integer (if negative then - (n : Int) else n), rest) := by
  have hzero : ¬ ((digitsOf n).head? == some 0 && decide (1 < (digitsOf n).length)) = true := by
    rcases Nat.eq_zero_or_pos n with rfl | hpos
    · decide
    · simp [head_digits_of hpos]
  have hfraction : readFraction rest = some (none, rest) := by
    unfold readFraction
    split
    · exact absurd rfl (h '.' rfl).2.1
    · rfl
  have hexponent : readExponent rest = some (none, rest) := by
    cases rest with
    | nil => rfl
    | cons c rest => simp [readExponent, (h c rfl).2.2]
  simp only [readUnsigned, read_digits_write n h, Option.bind_eq_bind, Option.bind_some,
    if_neg hzero, hfraction, hexponent, numberValue, of_digits_digits_of]
  rfl

/-- The first digit of a number. -/
theorem to_digits_head (n : Nat) :
    ∃ c digits, Nat.toDigits 10 n = c :: digits ∧ c.isDigit = true := by
  cases hdigits : Nat.toDigits 10 n with
  | nil => exact absurd hdigits Nat.toDigits_ne_nil
  | cons c digits =>
      have hmem : c ∈ Nat.toDigits 10 n := by simp [hdigits]
      exact ⟨c, digits, rfl, Nat.isDigit_of_mem_toDigits (by decide) (by decide) hmem⟩

/-- An integer is read back. -/
theorem read_number_write (n : Int) {rest : List Char} (h : EndsNumber rest) :
    readNumber ((toString n).toList ++ rest) = some (.integer n, rest) := by
  rw [Int.toString_eq_repr, Int.repr_eq_if]
  split
  case isTrue hpos =>
      obtain ⟨c, digits, hdigits, hc⟩ := to_digits_head n.toNat
      have hsign : c ≠ '-' := by
        rintro rfl
        cases hc
      have hread := read_unsigned_write false n.toNat h
      rw [Nat.toList_repr]
      rw [hdigits, List.cons_append] at hread ⊢
      rw [readNumber.eq_2 _ (by simp [hsign]), hread]
      have hvalue : ((n.toNat : Nat) : Int) = n := by omega
      simp only [Bool.false_eq_true, if_false, hvalue]
  case isFalse hneg =>
      have hread := read_unsigned_write true (- n).toNat h
      rw [String.toList_append, Nat.toList_repr]
      refine hread.trans ?_
      have hvalue : - (((- n).toNat : Nat) : Int) = n := by omega
      simp only [if_true, hvalue]

/-- The first character of an integer. -/
theorem integer_head (n : Int) :
    ∃ c text, (toString n).toList = c :: text ∧ (c = '-' ∨ c.isDigit = true) := by
  rw [Int.toString_eq_repr, Int.repr_eq_if]
  split
  · obtain ⟨c, digits, hdigits, hc⟩ := to_digits_head n.toNat
    exact ⟨c, digits, by rw [Nat.toList_repr, hdigits], .inr hc⟩
  · exact ⟨'-', _, by rw [String.toList_append]; rfl, .inl rfl⟩

/-! ## Gaps -/

/-- The blanks between the parts of a document. -/
def blanks : List Char := [' ', '\t', '\n', '\r']

/-- There is nothing but blanks. -/
def IsGap (gap : List Char) : Prop :=
  ∀ c ∈ gap, c ∈ blanks

/-- Gaps are skipped. -/
theorem skip_gap {gap : List Char} (h : IsGap gap) (text : List Char) :
    skipBlanks (gap ++ text) = skipBlanks text := by
  refine List.dropWhile_append_of_pos fun c hc => ?_
  simpa [blanks, or_assoc] using h c hc

/-- Nothing else is skipped. -/
theorem skip_blanks_cons {c : Char} (h : c ∉ blanks) (text : List Char) :
    skipBlanks (c :: text) = c :: text := by
  refine List.dropWhile_cons_of_neg ?_
  simpa [blanks, or_assoc] using h

/-- A value may stand behind a gap. -/
theorem read_value_gap {gap : List Char} (h : IsGap gap) (fuel : Nat) (text : List Char) :
    readValue fuel (gap ++ text) = readValue fuel text := by
  cases fuel with
  | zero => simp only [readValue]
  | succ fuel => simp only [readValue, skip_gap h]

/-- Items may stand behind a gap. -/
theorem read_items_gap {gap : List Char} (h : IsGap gap) (fuel : Nat) (text : List Char) :
    readItems fuel (gap ++ text) = readItems fuel text := by
  cases fuel with
  | zero => simp only [readItems]
  | succ fuel => simp only [readItems, read_value_gap h]

/-- Entries may stand behind a gap. -/
theorem read_entries_gap {gap : List Char} (h : IsGap gap) (fuel : Nat) (entries : Table)
    (text : List Char) :
    readEntries fuel entries (gap ++ text) = readEntries fuel entries text := by
  cases fuel with
  | zero => simp only [readEntries]
  | succ fuel => simp only [readEntries, skip_gap h]

/-- A number ends before a blank and before the marks that stand behind values. -/
theorem ends_number_cons {c : Char} (h : c ∈ blanks ++ [',', ']', '}']) (rest : List Char) :
    EndsNumber (c :: rest) := by
  have hall : ∀ c ∈ blanks ++ [',', ']', '}'],
      c.isDigit = false ∧ c ≠ '.' ∧ c ≠ 'e' ∧ c ≠ 'E' := by simp [blanks]
  intro d hd
  obtain rfl : c = d := by simpa using hd
  exact hall c h

/-- A number ends before a gap. -/
theorem ends_number_gap {gap : List Char} (h : IsGap gap) {rest : List Char}
    (hrest : EndsNumber rest) : EndsNumber (gap ++ rest) := by
  cases gap with
  | nil => exact hrest
  | cons c gap => exact ends_number_cons (List.mem_append_left _ (h c List.mem_cons_self)) _

/-- Apart from commas and colons, there is nothing but blanks between the parts of a value. -/
structure Layout.IsSpaced (layout : Layout) : Prop where
  opening (depth : Nat) : IsGap (layout.opening depth)
  between (depth : Nat) : ∃ gap, layout.between depth = ',' :: gap ∧ IsGap gap
  closing (depth : Nat) : IsGap (layout.closing depth)
  colon : ∃ gap, layout.colon = ':' :: gap ∧ IsGap gap

/-- A new line is a gap. -/
theorem new_line_gap (depth : Nat) : IsGap (newLine depth) := by
  intro c hc
  rcases List.mem_cons.mp hc with rfl | hc
  · decide
  · rw [List.eq_of_mem_replicate hc]
    decide

/-- Reports have nothing but blanks between their parts. -/
theorem report_layout_spaced : reportLayout.IsSpaced where
  opening depth := new_line_gap depth
  between depth := ⟨_, rfl, new_line_gap depth⟩
  closing depth := new_line_gap depth
  colon := ⟨[' '], rfl, by simp [IsGap, blanks]⟩

/-! ## Values -/

/-- The value is read back with whatever stands behind it, if the fuel is not less than its text. -/
def ReadsBack (layout : Layout) (value : Value) : Prop :=
  ∀ (depth fuel : Nat) (rest : List Char), (write layout depth value).length ≤ fuel →
    EndsNumber rest → readValue fuel (write layout depth value ++ rest) = some (value, rest)

/-- The items of an array between its brackets. -/
def itemsText (layout : Layout) (depth : Nat) : List Value → List Char
  | [] => []
  | item :: rest => write layout depth item ++ writeItems layout depth rest

/-- The entries of a table between its braces. -/
def entriesText (layout : Layout) (depth : Nat) : Table → List Char
  | [] => []
  | (key, value) :: rest =>
      writeString key ++ layout.colon ++ write layout depth value ++ writeEntries layout depth rest

section Parts

variable {layout : Layout} (hlayout : layout.IsSpaced)
include hlayout

/-- The items of an array are read back up to its bracket. -/
theorem read_items_write (depth : Nat) {items : List Value} (hne : items ≠ [])
    (h : ∀ item ∈ items, ReadsBack layout item) {fuel : Nat}
    (hfuel : (itemsText layout depth items).length < fuel) {gap : List Char} (hgap : IsGap gap)
    (rest : List Char) :
    readItems fuel (itemsText layout depth items ++ (gap ++ ']' :: rest)) = some (items, rest) := by
  induction items generalizing fuel with
  | nil => exact absurd rfl hne
  | cons item others ih =>
      obtain ⟨hitem, hothers⟩ := List.forall_mem_cons.mp h
      obtain ⟨fuel, rfl⟩ : ∃ smaller, fuel = smaller + 1 := Nat.exists_eq_add_one.mpr (by omega)
      -- every item takes one unit of fuel, which the comma before it pays for
      cases others with
      | nil =>
          simp only [itemsText, writeItems, List.append_nil] at hfuel ⊢
          rw [readItems, hitem depth fuel _ (by omega)
            (ends_number_gap hgap (ends_number_cons (by simp) rest))]
          simp [skip_gap hgap, skip_blanks_cons, blanks]
      | cons next others =>
          obtain ⟨space, hbetween, hspace⟩ := hlayout.between depth
          have htext : itemsText layout depth (item :: next :: others) =
              write layout depth item ++
                ',' :: (space ++ itemsText layout depth (next :: others)) := by
            simp [itemsText, writeItems, hbetween]
          simp only [htext, List.length_append, List.length_cons] at hfuel ⊢
          rw [List.append_assoc, List.cons_append, readItems,
            hitem depth fuel _ (by omega) (ends_number_cons (by simp) _)]
          simp only [Option.bind_eq_bind, Option.bind_some,
            skip_blanks_cons (show ',' ∉ blanks by decide)]
          rw [List.append_assoc, read_items_gap hspace, ih (by simp) hothers (by omega)]
          rfl

/-- One entry is read back, behind those that were read before. -/
theorem read_entry_write (depth : Nat) {key : String} {value : Value}
    (h : ReadsBack layout value) {before : Table} (hkey : key ∉ before.map Prod.fst) {fuel : Nat}
    (hfuel : (write layout depth value).length ≤ fuel) {rest : List Char}
    (hrest : EndsNumber rest) :
    readEntries (fuel + 1) before
        (writeString key ++ layout.colon ++ write layout depth value ++ rest) =
      match skipBlanks rest with
      | ',' :: rest => readEntries fuel (before ++ [(key, value)]) rest
      | '}' :: rest => some (before ++ [(key, value)], rest)
      | _ => none := by
  obtain ⟨space, hcolon, hspace⟩ := hlayout.colon
  have htext : writeString key ++ layout.colon ++ write layout depth value ++ rest =
      '"' :: (key.toList.flatMap escapeChar ++
        '"' :: ':' :: (space ++ (write layout depth value ++ rest))) := by
    simp [writeString, hcolon]
  rw [htext, readEntries, skip_blanks_cons (by decide)]
  simp only [read_string_write, Option.bind_eq_bind, Option.bind_some,
    skip_blanks_cons (show ':' ∉ blanks by decide), read_value_gap hspace,
    h depth fuel rest hfuel hrest, Table.put_of_not_mem hkey]
  rfl

/-- The entries of a table are read back up to its brace, behind those that were read before. -/
theorem read_entries_write (depth : Nat) {entries : Table} (hne : entries ≠ [])
    (h : ∀ entry ∈ entries, ReadsBack layout entry.2) (before : Table)
    (hkeys : ((before ++ entries).map Prod.fst).Nodup) {fuel : Nat}
    (hfuel : (entriesText layout depth entries).length < fuel) {gap : List Char} (hgap : IsGap gap)
    (rest : List Char) :
    readEntries fuel before (entriesText layout depth entries ++ (gap ++ '}' :: rest)) =
      some (before ++ entries, rest) := by
  induction entries generalizing fuel before with
  | nil => exact absurd rfl hne
  | cons entry others ih =>
      obtain ⟨key, value⟩ := entry
      obtain ⟨hvalue, hothers⟩ := List.forall_mem_cons.mp h
      replace hvalue : ReadsBack layout value := hvalue
      obtain ⟨fuel, rfl⟩ : ∃ smaller, fuel = smaller + 1 := Nat.exists_eq_add_one.mpr (by omega)
      have hnew : key ∉ before.map Prod.fst := by
        -- so the value is appended and does not replace another
        rw [List.map_append, List.nodup_append'] at hkeys
        exact fun hmem => hkeys.2.2 hmem (by simp)
      cases others with
      | nil =>
          simp only [entriesText, writeEntries, List.append_nil, List.length_append] at hfuel ⊢
          rw [read_entry_write hlayout depth hvalue hnew (by omega)
            (ends_number_gap hgap (ends_number_cons (by simp) rest)), skip_gap hgap,
            skip_blanks_cons (by decide)]
          rfl
      | cons next others =>
          obtain ⟨space, hbetween, hspace⟩ := hlayout.between depth
          have htext : entriesText layout depth ((key, value) :: next :: others) =
              writeString key ++ layout.colon ++ write layout depth value ++
                ',' :: (space ++ entriesText layout depth (next :: others)) := by
            simp [entriesText, writeEntries, hbetween]
          simp only [htext, List.length_append, List.length_cons] at hfuel ⊢
          rw [List.append_assoc, List.cons_append, read_entry_write hlayout depth hvalue hnew
            (by omega) (ends_number_cons (by simp) _), skip_blanks_cons (by decide)]
          simp only [List.append_assoc]
          rw [read_entries_gap hspace, ih (by simp) hothers _ (by simpa using hkeys) (by omega)]
          simp

end Parts

/-- A number starts neither with a blank nor with a mark or a letter of JSON. -/
theorem number_start {c : Char} (h : c = '-' ∨ c.isDigit = true) :
    c ∉ blanks ∧ c ∉ [']', '"', '[', '{', 't', 'f', 'n'] := by
  have hall : ∀ c ∈ blanks ++ [']', '"', '[', '{', 't', 'f', 'n'],
      ¬ (c = '-' ∨ c.isDigit = true) := by simp [blanks]
  rw [← not_or, ← List.mem_append]
  exact fun hmem => hall c hmem h

/-- The first character of a value is no blank and no closing bracket. -/
theorem write_head (layout : Layout) (depth : Nat) {value : Value} (h : value.IsNative) :
    ∃ c text, write layout depth value = c :: text ∧ c ∉ blanks ∧ c ≠ ']' := by
  cases h with
  | null => exact ⟨'n', _, rfl, by decide⟩
  | bool b =>
      cases b with
      | false => exact ⟨'f', _, rfl, by decide⟩
      | true => exact ⟨'t', _, rfl, by decide⟩
  | integer n =>
      obtain ⟨c, text, htext, hc⟩ := integer_head n
      obtain ⟨hblank, hmark⟩ := number_start hc
      exact ⟨c, text, by rw [write, htext], hblank, List.ne_of_not_mem_cons hmark⟩
  | string s => exact ⟨'"', _, rfl, by decide⟩
  | array hitems =>
      rename_i items
      cases items <;> exact ⟨'[', _, rfl, by decide⟩
  | table hkeys hentries =>
      rename_i entries
      cases entries <;> exact ⟨'{', _, rfl, by decide⟩

/-- A word is read back. -/
theorem read_word_write (word : String) (value : Value) (rest : List Char) :
    readWord word value (word.toList ++ rest) = some (value, rest) := by
  have hdrop : (word.toList ++ rest).drop word.length = rest := List.drop_left
  simp [readWord, hdrop]

/-- A text that starts like an integer is read as a number. -/
theorem read_value_number {c : Char} (h : c = '-' ∨ c.isDigit = true) (fuel : Nat)
    (text : List Char) : readValue (fuel + 1) (c :: text) = readNumber (c :: text) := by
  obtain ⟨hblank, hmark⟩ := number_start h
  rw [readValue, skip_blanks_cons hblank]
  split <;> simp_all

/-- Fuel for the text of a value is fuel for a step. -/
theorem exists_fuel {layout : Layout} {depth fuel : Nat} {value : Value} (h : value.IsNative)
    (hfuel : (write layout depth value).length ≤ fuel) : ∃ smaller, fuel = smaller + 1 := by
  obtain ⟨c, text, htext, -⟩ := write_head layout depth h
  rw [htext, List.length_cons] at hfuel
  exact ⟨fuel - 1, by omega⟩

/-- A text that starts like an array with items is read as one. -/
theorem read_value_array {gap : List Char} (hgap : IsGap gap) {c : Char} (hblank : c ∉ blanks)
    (hclose : c ≠ ']') (fuel : Nat) (text : List Char) :
    readValue (fuel + 1) ('[' :: (gap ++ c :: text)) =
      (readItems fuel (c :: text)).map fun (items, rest) => (.array items, rest) := by
  rw [readValue, skip_blanks_cons (by decide)]
  simp only [skip_gap hgap, skip_blanks_cons hblank]
  split
  case h_1 heq => exact absurd (List.cons.inj heq).1 hclose
  case h_2 => rfl

/-- A text that starts like a table with entries is read as one. -/
theorem read_value_table {gap : List Char} (hgap : IsGap gap) (fuel : Nat) (text : List Char) :
    readValue (fuel + 1) ('{' :: (gap ++ '"' :: text)) =
      (readEntries fuel [] ('"' :: text)).map fun (entries, rest) => (.table entries, rest) := by
  rw [readValue, skip_blanks_cons (by decide)]
  simp only [skip_gap hgap, skip_blanks_cons (show '"' ∉ blanks by decide)]
  rfl

section Whole

variable {layout : Layout} (hlayout : layout.IsSpaced)
include hlayout

/-- An array is read back if its items are. -/
theorem reads_back_array {items : List Value} (hitems : ∀ item ∈ items, item.IsNative)
    (h : ∀ item ∈ items, ReadsBack layout item) : ReadsBack layout (.array items) := by
  intro depth fuel rest hfuel hrest
  obtain ⟨fuel, rfl⟩ := exists_fuel (.array hitems) hfuel
  cases items with
  | nil =>
      rw [readValue, write]
      rfl
  | cons item others =>
      have htext : write layout depth (.array (item :: others)) =
          '[' :: (layout.opening (depth + 1) ++ (itemsText layout (depth + 1) (item :: others) ++
            (layout.closing depth ++ [']']))) := by
        simp [write, itemsText]
      rw [htext] at hfuel ⊢
      simp only [List.length_cons, List.length_append, List.length_nil] at hfuel
      have hread := read_items_write hlayout (depth + 1) (by simp) h
        (show (itemsText layout (depth + 1) (item :: others)).length < fuel by omega)
        (hlayout.closing depth) rest
      obtain ⟨c, text, hhead, hblank, hclose⟩ :=
        write_head layout (depth + 1) (hitems item List.mem_cons_self)
      simp only [itemsText, hhead, List.cons_append, List.append_assoc, List.nil_append] at hread ⊢
      rw [read_value_array (hlayout.opening (depth + 1)) hblank hclose, hread]
      rfl

/-- A table without repeated keys is read back if its values are. -/
theorem reads_back_table {entries : Table} (hkeys : (entries.map Prod.fst).Nodup)
    (hentries : ∀ entry ∈ entries, entry.2.IsNative)
    (h : ∀ entry ∈ entries, ReadsBack layout entry.2) : ReadsBack layout (.table entries) := by
  intro depth fuel rest hfuel hrest
  obtain ⟨fuel, rfl⟩ := exists_fuel (.table hkeys hentries) hfuel
  cases entries with
  | nil =>
      rw [readValue, write]
      rfl
  | cons entry others =>
      have htext : write layout depth (.table (entry :: others)) =
          '{' :: (layout.opening (depth + 1) ++ (entriesText layout (depth + 1) (entry :: others) ++
            (layout.closing depth ++ ['}']))) := by
        simp [write, entriesText]
      rw [htext] at hfuel ⊢
      simp only [List.length_cons, List.length_append, List.length_nil] at hfuel
      have hread := read_entries_write hlayout (depth + 1) (by simp) h [] hkeys
        (show (entriesText layout (depth + 1) (entry :: others)).length < fuel by omega)
        (hlayout.closing depth) rest
      simp only [entriesText, writeString, List.cons_append, List.append_assoc,
        List.nil_append] at hread ⊢
      rw [read_value_table (hlayout.opening (depth + 1)), hread]
      rfl

/-- What is written is read back. -/
theorem reads_back {value : Value} (h : value.IsNative) : ReadsBack layout value := by
  induction h with
  | null =>
      intro depth fuel rest hfuel hrest
      obtain ⟨fuel, rfl⟩ := exists_fuel .null hfuel
      exact read_word_write "ull" .null rest
  | bool b =>
      intro depth fuel rest hfuel hrest
      obtain ⟨fuel, rfl⟩ := exists_fuel (.bool b) hfuel
      cases b with
      | false => exact read_word_write "alse" (.bool false) rest
      | true => exact read_word_write "rue" (.bool true) rest
  | integer n =>
      intro depth fuel rest hfuel hrest
      obtain ⟨fuel, rfl⟩ := exists_fuel (.integer n) hfuel
      obtain ⟨c, text, htext, hc⟩ := integer_head n
      have hread := read_number_write n hrest
      rw [write]
      rw [htext, List.cons_append] at hread ⊢
      rw [read_value_number hc, hread]
  | string s =>
      intro depth fuel rest hfuel hrest
      obtain ⟨fuel, rfl⟩ := exists_fuel (.string s) hfuel
      have htext : write layout depth (.string s) ++ rest =
          '"' :: (s.toList.flatMap escapeChar ++ '"' :: rest) := by
        simp [write, writeString]
      rw [htext, readValue, skip_blanks_cons (by decide)]
      simp only [read_string_write, Option.map_some]
  | array hitems ih => exact reads_back_array hlayout hitems ih
  | table hkeys hentries ih => exact reads_back_table hlayout hkeys hentries ih

end Whole

/-- A document in the report form is read back. -/
theorem parse?_pretty {value : Value} (h : value.IsNative) :
    parse? (pretty value) = some value := by
  have hread := reads_back report_layout_spaced h 0 ((write reportLayout 0 value).length + 1) []
    (Nat.le_succ _) nofun
  rw [List.append_nil] at hread
  simp [parse?, pretty, hread, skipBlanks]

end Json

end ChannelLint
