import ChannelLint.Lint
import Mathlib.Algebra.Group.Nat.Defs
import Mathlib.Data.Option.Defs
import Mathlib.Tactic.SplitIfs

/-!
# Line endings

The lines of a file may end with line feeds alone, with a carriage return and a line feed, or some in
the one way and some in the other. Files are decoded first, and line endings are made alike in the
decoded text. The main theorem, `Lint.line_endings_alike`, says that this is enough: putting
carriage returns in front of line feeds changes nothing about the result of an inspection, even where
the bytes before them are not UTF-8. Its reason is that a byte below 0x80 ends whatever stands
unfinished before it (`shown_from_ascii`), and that no other byte takes part in a carriage return
(`no_return_shown`).
-/

namespace ChannelLint

namespace Text

/-! ## Carriage returns in front of line feeds -/

/-- The second sequence is the first with a carriage return in front of some of its line feeds. -/
inductive Widens {α : Type} (ret feed : α) : List α → List α → Prop where
  | nil : Widens ret feed [] []
  | keep (one : α) {rest changed : List α} :
      Widens ret feed rest changed → Widens ret feed (one :: rest) (one :: changed)
  | widen {rest changed : List α} :
      Widens ret feed rest changed → Widens ret feed (feed :: rest) (ret :: feed :: changed)

namespace Widens

variable {α : Type} {ret feed : α}

/-- No line feed needs to be changed. -/
theorem refl (items : List α) : Widens ret feed items items := by
  induction items with
  | nil => exact .nil
  | cons one rest ih => exact .keep one ih

/-- What stands in front may stay. -/
theorem append_left (front : List α) {rest changed : List α} (h : Widens ret feed rest changed) :
    Widens ret feed (front ++ rest) (front ++ changed) := by
  induction front with
  | nil => exact h
  | cons one front ih => exact .keep one ih

end Widens

/-- A character other than a carriage return stays. -/
theorem unify_newlines_cons {c : Char} (h : c ≠ '\r') (rest : List Char) :
    unifyNewlines (c :: rest) = c :: unifyNewlines rest := by
  simp [unifyNewlines, h]

/-- Making line endings alike takes the carriage returns away again. -/
theorem Widens.unify_newlines {text changed : List Char} (h : Widens '\r' '\n' text changed)
    (hreturn : '\r' ∉ text) : unifyNewlines changed = text := by
  induction h with
  | nil => rfl
  | keep c _ ih =>
      rw [List.mem_cons, not_or] at hreturn
      rw [unify_newlines_cons (Ne.symm hreturn.1), ih hreturn.2]
  | widen _ ih =>
      rw [List.mem_cons, not_or] at hreturn
      rw [unifyNewlines, ih hreturn.2]

/-! ## Steps of decoding -/

/-- The character that is put in place of a piece. -/
def Utf8Piece.shown : Utf8Piece → Char
  | char c => c
  | bad _ => Char.ofNat 0xfffd

/-- Reads a byte between characters or inside one. -/
def utf8Step (offset : Nat) (pending : Option Utf8Open) (byte : Nat) :
    List Utf8Piece × Option Utf8Open :=
  match pending with
  | none => utf8First offset byte
  | some opened => utf8Next opened offset byte

/-- The characters that bytes are decoded to, from the given offset on. -/
def shownFrom (offset : Nat) (pending : Option Utf8Open) (bytes : List UInt8) : List Char :=
  (utf8Pieces offset pending bytes).map Utf8Piece.shown

/-- Bytes are decoded to what is shown for their pieces. -/
theorem decode_lossy_eq (bytes : List UInt8) : decodeLossy bytes = shownFrom 0 none bytes :=
  List.map_congr_left fun piece _ => by cases piece <;> rfl

/-- Bytes are decoded step by step. -/
theorem shown_from_cons (offset : Nat) (pending : Option Utf8Open) (byte : UInt8)
    (rest : List UInt8) :
    shownFrom offset pending (byte :: rest) =
      (utf8Step offset pending byte.toNat).1.map Utf8Piece.shown ++
        shownFrom (offset + 1) (utf8Step offset pending byte.toNat).2 rest :=
  List.map_append

/-- An unfinished character will not be one of ASCII, whatever bytes go on with it. -/
structure Utf8Open.IsLong (pending : Utf8Open) : Prop where
  more : 0 < pending.more
  low : 0x80 ≤ pending.low
  /-- The least code that it can have in the end. -/
  code : 0x80 ≤ (pending.bits * 64 + (pending.low - 0x80)) * 64 ^ (pending.more - 1)

/-- Two unfinished characters may have begun at different places, but go on in the same way. -/
structure Utf8Open.Alike (first second : Utf8Open) : Prop where
  bits : first.bits = second.bits
  more : first.more = second.more
  low : first.low = second.low
  high : first.high = second.high

/-- A byte that may be the first of a character is one of ASCII, or it begins a character that is
not. -/
theorem utf8_lead_cases {byte : Nat} {lead : Utf8Lead} (h : utf8Lead? byte = some lead) :
    (byte < 0x80 ∧ lead.more = 0 ∧ lead.bits = byte) ∨
      (0x80 ≤ byte ∧ 0 < lead.more ∧ 0x80 ≤ lead.low ∧
        0x80 ≤ (lead.bits * 64 + (lead.low - 0x80)) * 64 ^ (lead.more - 1)) := by
  simp only [utf8Lead?, Bool.and_eq_true, decide_eq_true_eq, beq_iff_eq] at h
  split_ifs at h with hascii
  case pos =>
      cases h
      exact .inl ⟨hascii, rfl, rfl⟩
  all_goals
    obtain rfl := Option.some.inj h
    simp only [Nat.reduceSub, Nat.reducePow]
    omega

/-- A byte between characters completes one of ASCII or none, or it begins one that is not. -/
theorem utf8_first_cases (offset byte : Nat) :
    (byte < 0x80 ∧ utf8First offset byte = ([.char (Char.ofNat byte)], none)) ∨
      (0x80 ≤ byte ∧ ((∃ error, utf8First offset byte = ([.bad error], none)) ∨
        ∃ opened : Utf8Open, opened.IsLong ∧ utf8First offset byte = ([], some opened))) := by
  unfold utf8First
  cases hlead : utf8Lead? byte with
  | none =>
      have hbyte : 0x80 ≤ byte := Nat.le_of_not_lt fun hascii => by
        rw [utf8Lead?, if_pos hascii] at hlead
        cases hlead
      exact .inr ⟨hbyte, .inl ⟨_, rfl⟩⟩
  | some lead =>
      rcases utf8_lead_cases hlead with ⟨hbyte, hmore, hbits⟩ | ⟨hbyte, hmore, hlow, hcode⟩
      · exact .inl ⟨hbyte, by simp [hmore, hbits]⟩
      · refine .inr ⟨hbyte, .inr ⟨⟨offset, byte, 1, lead.bits, lead.more, lead.low, lead.high⟩,
          ⟨hmore, hlow, hcode⟩, ?_⟩⟩
        simp [Nat.ne_of_gt hmore]

/-- A byte of ASCII is shown as its character, behind one that it leaves unfinished. -/
theorem shown_from_ascii {byte : UInt8} (hbyte : byte.toNat < 0x80) (offset : Nat)
    {pending : Option Utf8Open} (hlong : ∀ opened ∈ pending, opened.IsLong) (rest : List UInt8) :
    shownFrom offset pending (byte :: rest) =
      pending.toList.map (fun _ => Char.ofNat 0xfffd) ++
        Char.ofNat byte.toNat :: shownFrom (offset + 1) none rest := by
  rcases utf8_first_cases offset byte.toNat with ⟨-, hfirst⟩ | ⟨hother, -⟩
  case inr => omega
  case inl =>
      rw [shown_from_cons]
      cases pending with
      | none => simp [utf8Step, hfirst, Utf8Piece.shown]
      | some opened =>
          have hlow : ¬ opened.low ≤ byte.toNat := by
            have := (hlong opened rfl).low
            omega
          simp [utf8Step, utf8Next, hlow, hfirst, Utf8Piece.shown]

/-- Only its own code is that of a carriage return; a code without a character stands for another. -/
theorem eq_of_of_nat_return {code : Nat} (h : Char.ofNat code = '\r') : code = 0x0d := by
  have hnat : (Char.ofNat code).toNat = 0x0d := congrArg Char.toNat h
  by_cases hvalid : code.isValidChar
  · have hcode : (Char.ofNat code).toNat = code := by
      rw [Char.ofNat, dif_pos hvalid]
      rfl
    exact hcode.symm.trans hnat
  · have hcode : (Char.ofNat code).toNat = 0 := by
      rw [Char.ofNat, dif_neg hvalid]
      rfl
    cases hcode.symm.trans hnat

/-- A byte inside a character continues it, completes one beyond ASCII, or leaves it unfinished and
stands between characters. -/
theorem utf8_next_cases {opened : Utf8Open} (hlong : opened.IsLong) (offset byte : Nat) :
    (0x80 ≤ byte ∧ ((∃ code, 0x80 ≤ code ∧
        utf8Next opened offset byte = ([.char (Char.ofNat code)], none)) ∨
      ∃ next : Utf8Open, next.IsLong ∧ utf8Next opened offset byte = ([], some next))) ∨
    ∃ error, utf8Next opened offset byte =
      (.bad error :: (utf8First offset byte).1, (utf8First offset byte).2) := by
  obtain ⟨hmore, hlow, hcode⟩ := hlong
  unfold utf8Next
  by_cases hbyte : opened.low ≤ byte ∧ byte ≤ opened.high
  · have hbits : opened.bits * 64 + (opened.low - 0x80) ≤ opened.bits * 64 + (byte - 0x80) := by
      omega
    have hleast := Nat.le_trans hcode (Nat.mul_le_mul_right (64 ^ (opened.more - 1)) hbits)
    refine .inl ⟨by omega, ?_⟩
    by_cases hone : opened.more = 1
    · rw [hone] at hleast
      exact .inl ⟨_, by simpa using hleast, by simp [hbyte, hone]⟩
    · -- one byte less is owed, and the bits of the read one have moved up
      refine .inr ⟨_, ⟨?_, Nat.le_refl _, ?_⟩, by simp [hbyte, hone]; rfl⟩
      · show 0 < opened.more - 1
        omega
      · obtain ⟨more, hmore⟩ : ∃ more, opened.more = more + 2 := ⟨opened.more - 2, by omega⟩
        have hpower : 64 ^ (opened.more - 1) = 64 * 64 ^ (opened.more - 1 - 1) := by
          rw [hmore]
          exact Nat.pow_succ'
        rw [hpower, ← Nat.mul_assoc] at hleast
        simpa only [Nat.sub_self, Nat.add_zero] using hleast
  · exact .inr ⟨_, by simp [hbyte]; rfl⟩

/-- A step leaves unfinished only what is long, and shows no carriage return for another byte. -/
theorem utf8_step_keeps {pending : Option Utf8Open} (hlong : ∀ opened ∈ pending, opened.IsLong)
    (offset byte : Nat) :
    (∀ next ∈ (utf8Step offset pending byte).2, next.IsLong) ∧
      (byte ≠ 0x0d → '\r' ∉ (utf8Step offset pending byte).1.map Utf8Piece.shown) := by
  have hfirst : (∀ next ∈ (utf8First offset byte).2, next.IsLong) ∧
      (byte ≠ 0x0d → '\r' ∉ (utf8First offset byte).1.map Utf8Piece.shown) := by
    rcases utf8_first_cases offset byte with
      ⟨hascii, heq⟩ | ⟨-, ⟨error, heq⟩ | ⟨opened, hopened, heq⟩⟩
    · rw [heq]
      refine ⟨nofun, fun hbyte hmem => hbyte ?_⟩
      exact eq_of_of_nat_return (List.mem_singleton.mp hmem).symm
    · rw [heq]
      exact ⟨nofun, fun _ hmem => by cases List.mem_singleton.mp hmem⟩
    · rw [heq]
      refine ⟨?_, fun _ => List.not_mem_nil⟩
      rintro next ⟨⟩
      exact hopened
  cases pending with
  | none => exact hfirst
  | some opened =>
      rcases utf8_next_cases (hlong opened rfl) offset byte with
        ⟨-, ⟨code, hcode, heq⟩ | ⟨next, hnext, heq⟩⟩ | ⟨error, heq⟩
      all_goals rw [utf8Step, heq]
      · refine ⟨nofun, fun _ hmem => ?_⟩
        have := eq_of_of_nat_return (List.mem_singleton.mp hmem).symm
        omega
      · refine ⟨?_, fun _ => List.not_mem_nil⟩
        rintro other ⟨⟩
        exact hnext
      · refine ⟨hfirst.1, fun hbyte hmem => ?_⟩
        rcases List.mem_cons.mp hmem with hmem | hmem
        · cases hmem
        · exact hfirst.2 hbyte hmem

/-- Bytes without a carriage return are decoded to characters without one. -/
theorem no_return_shown {bytes : List UInt8} (h : 0x0d ∉ bytes) (offset : Nat)
    {pending : Option Utf8Open} (hlong : ∀ opened ∈ pending, opened.IsLong) :
    '\r' ∉ shownFrom offset pending bytes := by
  induction bytes generalizing offset pending with
  | nil => cases pending <;> simp [shownFrom, utf8Pieces, Utf8Piece.shown]
  | cons byte rest ih =>
      rw [List.mem_cons, not_or] at h
      have hbyte : byte.toNat ≠ 0x0d := fun heq => h.1 (UInt8.toNat_inj.mp heq.symm)
      obtain ⟨hnext, hshown⟩ := utf8_step_keeps hlong offset byte.toNat
      rw [shown_from_cons, List.mem_append, not_or]
      exact ⟨hshown hbyte, ih h.2 _ hnext⟩

/-! ## Decoding with and without carriage returns -/

/-- Two steps show the same and leave alike what they leave unfinished. -/
def StepsAlike (first second : List Utf8Piece × Option Utf8Open) : Prop :=
  first.1.map Utf8Piece.shown = second.1.map Utf8Piece.shown ∧
    Option.Rel Utf8Open.Alike first.2 second.2

/-- A byte between characters is read alike in all places. -/
theorem utf8_first_alike (first second byte : Nat) :
    StepsAlike (utf8First first byte) (utf8First second byte) := by
  unfold utf8First
  cases utf8Lead? byte with
  | none => exact ⟨rfl, .none⟩
  | some lead =>
      by_cases hmore : lead.more = 0
      · simp only [hmore, beq_self_eq_true, if_true]
        exact ⟨rfl, .none⟩
      · simp only [beq_eq_false_iff_ne.mpr hmore, Bool.false_eq_true, if_false]
        exact ⟨rfl, .some ⟨rfl, rfl, rfl, rfl⟩⟩

/-- A byte is read alike after what is unfinished alike. -/
theorem utf8_step_alike {pending other : Option Utf8Open}
    (h : Option.Rel Utf8Open.Alike pending other) (first second byte : Nat) :
    StepsAlike (utf8Step first pending byte) (utf8Step second other byte) := by
  cases h with
  | none => exact utf8_first_alike first second byte
  | @some opened also halike =>
      obtain ⟨hbits, hmore, hlow, hhigh⟩ := halike
      obtain ⟨hshown, hleft⟩ := utf8_first_alike first second byte
      simp only [utf8Step, utf8Next, ← hbits, ← hmore, ← hlow, ← hhigh]
      split
      · split
        · exact ⟨rfl, .none⟩
        · exact ⟨rfl, .some ⟨rfl, rfl, rfl, rfl⟩⟩
      · exact ⟨congrArg (Char.ofNat 0xfffd :: ·) hshown, hleft⟩

/-- What goes on as something long does is long. -/
theorem Utf8Open.Alike.is_long {first second : Utf8Open} (h : first.Alike second)
    (hlong : first.IsLong) : second.IsLong := by
  obtain ⟨hbits, hmore, hlow, -⟩ := h
  obtain ⟨hpos, hleast, hcode⟩ := hlong
  rw [hmore] at hpos
  rw [hlow] at hleast
  rw [hbits, hmore, hlow] at hcode
  exact ⟨hpos, hleast, hcode⟩

/-- Bytes with carriage returns in front of some line feeds are decoded to characters with carriage
returns in front of the same line feeds. -/
theorem Widens.shown {bytes changed : List UInt8} (h : Widens 0x0d 0x0a bytes changed)
    (first second : Nat) {pending other : Option Utf8Open}
    (halike : Option.Rel Utf8Open.Alike pending other)
    (hlong : ∀ opened ∈ pending, opened.IsLong) :
    Widens '\r' '\n' (shownFrom first pending bytes) (shownFrom second other changed) := by
  induction h generalizing first second pending other with
  | nil =>
      cases halike with
      | none => exact .nil
      | some halike => exact .refl _
  | keep byte _ ih =>
      obtain ⟨hshown, hnext⟩ := utf8_step_alike halike first second byte.toNat
      rw [shown_from_cons, shown_from_cons, ← hshown]
      exact .append_left _ (ih _ _ hnext (utf8_step_keeps hlong first byte.toNat).1)
  | widen _ ih =>
      -- the carriage return ends what is unfinished, as the line feed alone does
      have hother : ∀ opened ∈ other, opened.IsLong := by
        cases halike with
        | none => exact nofun
        | some halike =>
            rintro opened ⟨⟩
            exact halike.is_long (hlong _ rfl)
      have hnone : ∀ opened ∈ (none : Option Utf8Open), opened.IsLong := nofun
      have hsame : pending.toList.map (fun _ => Char.ofNat 0xfffd) =
          other.toList.map (fun _ => Char.ofNat 0xfffd) := by
        cases halike <;> rfl
      rw [shown_from_ascii (by decide) first hlong, shown_from_ascii (by decide) second hother,
        shown_from_ascii (by decide) (second + 1) hnone, ← hsame]
      exact .append_left _ (.widen (ih _ _ .none nofun))

/-- Carriage returns in front of line feeds do not change the text of a file. -/
theorem text_of_widened {bytes changed : List UInt8} (h : Widens 0x0d 0x0a bytes changed)
    (hreturn : 0x0d ∉ bytes) :
    unifyNewlines (decodeLossy changed) = unifyNewlines (decodeLossy bytes) := by
  have hnone : '\r' ∉ decodeLossy bytes := by
    rw [decode_lossy_eq]
    exact no_return_shown hreturn 0 nofun
  have hwidened : Widens '\r' '\n' (decodeLossy bytes) (decodeLossy changed) := by
    rw [decode_lossy_eq, decode_lossy_eq]
    exact h.shown 0 0 .none nofun
  rw [hwidened.unify_newlines hnone, (Widens.refl _).unify_newlines hnone]

end Text

/-! ## Files -/

namespace Lint

/-- A file in which carriage returns are put in front of some line feeds is inspected with the same
result: the same warnings, with the same lines, places, texts and groups, or the same error. -/
theorem line_endings_alike [Library] {bytes changed : List UInt8} (hreturn : 0x0d ∉ bytes)
    (h : Text.Widens 0x0d 0x0a bytes changed) (inspector : Inspector) (path : Path) :
    Inspection.inspectBytes inspector path changed = Inspection.inspectBytes inspector path bytes ∧
      ∀ (tree other : FileTree) (cwd here : Location), tree.read cwd path = .ok bytes →
        other.read here path = .ok changed →
        inspectFile other here inspector path = inspectFile tree cwd inspector path := by
  have hbytes : Inspection.inspectBytes inspector path changed =
      Inspection.inspectBytes inspector path bytes := by
    rw [Inspection.inspectBytes, Inspection.inspectBytes, Text.text_of_widened h hreturn]
  refine ⟨hbytes, fun tree other cwd here hread hother => ?_⟩
  rw [inspectFile, inspectFile, hread, hother]
  exact hbytes

/-- Of two lines the first ends in the middle of a character and gets a carriage return; a word at
the end of the second is found in both files. -/
theorem line_endings_alike_truncated :
    let word : List UInt8 := [0x73, 0x74, 0x6f, 0x70]
    let bytes := word ++ [0xe2, 0x82, 0x0a] ++ word ++ [0x0a]
    let changed := word ++ [0xe2, 0x82, 0x0d, 0x0a] ++ word ++ [0x0a]
    let tree := FileTree.directory [("a.brs", .file bytes)]
    let other := FileTree.directory [("a.brs", .file changed)]
    let inspector : Inspector := ⟨[{ pattern := "stop$" }], none⟩
    let path := Path.ofString "a.brs"
    0x0d ∉ bytes ∧ Text.Widens 0x0d 0x0a bytes changed ∧
      tree.read [] path = .ok bytes ∧ other.read [] path = .ok changed ∧
      inspectFile other [] inspector path = inspectFile tree [] inspector path ∧
      (inspectFile tree [] inspector path).toOption.map
        (fun result => result.warnings.map Warning.line) = some [1] := by
  intro word bytes changed tree other inspector path
  have hreturn : 0x0d ∉ bytes := by decide
  have hwidens : Text.Widens 0x0d 0x0a bytes changed :=
    .append_left (word ++ [0xe2, 0x82]) (.widen (.refl _))
  have hread : tree.read [] path = .ok bytes := rfl
  have hother : other.read [] path = .ok changed := rfl
  exact ⟨hreturn, hwidens, hread, hother,
    (line_endings_alike hreturn hwidens inspector path).2 tree other [] [] hread hother,
    by decide +kernel⟩

end Lint

end ChannelLint
