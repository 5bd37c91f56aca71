import ChannelLint.Proofs.JsonGrammar

/-!
# Numbers as JSON

Integers and finite floating-point numbers are written as JSON has them: `number_of_integer` and
`Double.number_of_finite`. A floating-point number is written as the decimal that the search for a
shortest one ends with. No decimal that the search finds is zero, as zero is not near a positive
number; if it finds none, a whole number stands in (`Double.Decimal.IsWritten`).
-/

namespace ChannelLint

open Json

/-! ## Digits -/

/-- The digits of a number are digits. -/
theorem digits_of_nat (n : Nat) : IsDigits (Nat.toDigits 10 n) :=
  ⟨Nat.toDigits_ne_nil, fun _ hc => Nat.isDigit_of_mem_toDigits (by decide) (by decide) hc⟩

/-- A zero is a digit. -/
theorem digits_zero : IsDigits ['0'] :=
  digits_of_nat 0

/-- The digits of a positive number do not start with zero. -/
theorem head_to_digits {n : Nat} (h : 0 < n) :
    ∃ c rest, Nat.toDigits 10 n = c :: rest ∧ c ≠ '0' := by
  have hhead := head_digits_of h
  cases hdigits : Nat.toDigits 10 n with
  | nil => exact absurd hdigits Nat.toDigits_ne_nil
  | cons c rest =>
      refine ⟨c, rest, rfl, ?_⟩
      rintro rfl
      simp [digitsOf, hdigits] at hhead

/-- The digits of a number are the whole part of one. -/
theorem whole_of_nat (n : Nat) : IsWhole (Nat.toDigits 10 n) := by
  rcases Nat.eq_zero_or_pos n with rfl | hpos
  · exact .zero
  · obtain ⟨c, rest, hdigits, hc⟩ := head_to_digits hpos
    have hall := digits_of_nat n
    rw [hdigits] at hall ⊢
    exact .digits hc hall

/-- The text is a number with and without a sign. -/
def IsUnsigned (text : List Char) : Prop :=
  ∀ sign ∈ [[], ['-']], IsNumber (sign ++ text)

/-- The parts of a number behind its sign. -/
theorem unsigned_of_parts {whole fraction exponent : List Char} (hwhole : IsWhole whole)
    (hfraction : IsFraction fraction) (hexponent : IsExponent exponent) :
    IsUnsigned (whole ++ fraction ++ exponent) := fun sign hsign => by
  simpa using IsNumber.parts hsign hwhole hfraction hexponent

/-- A whole part and digits behind a point are a number. -/
theorem unsigned_of_fraction {whole part : List Char} (hwhole : IsWhole whole)
    (hpart : IsDigits part) : IsUnsigned (whole ++ '.' :: part) := by
  simpa using unsigned_of_parts hwhole (.digits hpart) .absent

/-- An integer is a number of JSON. -/
theorem number_of_integer (n : Int) : IsNumber (toString n).toList := by
  have hunsigned : ∀ size, IsUnsigned (Nat.toDigits 10 size) := fun size => by
    simpa using unsigned_of_parts (whole_of_nat size) .absent .absent
  rw [Int.toString_eq_repr, Int.repr_eq_if]
  split
  · rw [Nat.toList_repr]
    exact hunsigned _ [] (by simp)
  · rw [String.toList_append, Nat.toList_repr]
    exact hunsigned _ ['-'] (by simp)

namespace Double

/-! ## Decimals -/

/-- Dropping trailing zeros keeps a first digit that is not zero. -/
theorem drop_trailing_zeros_cons {c : Char} (h : c ≠ '0') (rest : List Char) :
    ∃ kept zeros, dropTrailingZeros (c :: rest) = (c :: kept, zeros) ∧ kept <+: rest := by
  have hzeros : ((c :: rest).reverse.takeWhile (· == '0')).length ≤ rest.length := by
    rw [List.reverse_cons, List.takeWhile_append]
    split
    · simp [h]
    · exact Nat.le_trans (List.takeWhile_sublist _).length_le (Nat.le_of_eq List.length_reverse)
  unfold dropTrailingZeros
  dsimp only
  generalize ((c :: rest).reverse.takeWhile (· == '0')).length = zeros at hzeros
  refine ⟨rest.take (rest.length - zeros), zeros, ?_, List.take_prefix _ _⟩
  rw [List.length_cons, Nat.sub_add_comm hzeros, List.take_succ_cons]

/-- Zeros in front of digits are digits. -/
theorem digits_of_zeros (count : Nat) {text : List Char} (h : IsDigits text) :
    IsDigits (List.replicate count '0' ++ text) := by
  refine ⟨by simp [h.1], fun c hc => ?_⟩
  rcases List.mem_append.mp hc with hc | hc
  · rw [List.eq_of_mem_replicate hc]
    rfl
  · exact h.2 c hc

/-- A positive decimal is written as a number of JSON, in any format. -/
theorem Decimal.unsigned_of_pos (format : DecimalFormat) {decimal : Decimal}
    (h : 0 < decimal.digits) : IsUnsigned (decimal.write format) := by
  obtain ⟨c, rest, hdigits, hc⟩ := head_to_digits h
  obtain ⟨kept, zeros, hdrop, hkept⟩ := drop_trailing_zeros_cons hc rest
  have hall : ∀ d ∈ c :: kept, d.isDigit = true := by
    intro d hd
    have hmem : d ∈ c :: rest := ((List.prefix_cons_inj c).mpr hkept).subset hd
    exact (digits_of_nat _).2 d (hdigits ▸ hmem)
  obtain ⟨hfirst, hothers⟩ := List.forall_mem_cons.mp hall
  simp only [Decimal.write, hdigits, hdrop]
  generalize decimal.exponent + zeros + (c :: kept).length - 1 = order
  split
  · split
    · -- all digits stand behind the point
      exact unsigned_of_fraction .zero (digits_of_zeros _ ⟨List.cons_ne_nil _ _, hall⟩)
    · refine unsigned_of_fraction ?_ ?_
      · rw [List.take_succ_cons, List.cons_append]
        refine .digits hc ⟨List.cons_ne_nil _ _, ?_⟩
        simp only [List.forall_mem_cons, List.forall_mem_append, List.forall_mem_replicate]
        exact ⟨hfirst, fun d hd => hothers d (List.mem_of_mem_take hd), .inr rfl⟩
      · rw [List.drop_succ_cons]
        split
        case isTrue => exact digits_zero
        case isFalse hne =>
            exact ⟨by simpa using hne, fun d hd => hothers d (List.mem_of_mem_drop hd)⟩
  · have hwhole : IsWhole [c] := .digits hc ⟨List.cons_ne_nil _ _, by simpa using hfirst⟩
    have hfraction : IsFraction (if kept.isEmpty then [] else '.' :: kept) := by
      split
      case isTrue => exact .absent
      case isFalse hne => exact .digits ⟨by simpa using hne, hothers⟩
    have hexponent : IsExponent ('e' :: ([if order < 0 then '-' else '+'] ++
        padZeros format.exponentDigits (Nat.toDigits 10 order.natAbs))) := by
      refine .digits (by simp) ?_ (digits_of_zeros _ (digits_of_nat _))
      split <;> simp
    simpa using unsigned_of_parts hwhole hfraction hexponent

/-! ## Shortest decimals -/

/-- The decimal is positive, or it has no power of ten. -/
def Decimal.IsWritten (decimal : Decimal) : Prop :=
  0 < decimal.digits ∨ decimal.exponent = 0

/-- Such a decimal is written as a number of JSON. -/
theorem Decimal.IsWritten.unsigned {decimal : Decimal} (h : decimal.IsWritten) :
    IsUnsigned (decimal.write plainFormat) := by
  obtain ⟨digits, exponent⟩ := decimal
  rcases Nat.eq_zero_or_pos digits with rfl | hpos
  · obtain rfl : exponent = 0 := h.resolve_left (Nat.lt_irrefl 0)
    exact unsigned_of_fraction .zero digits_zero
  · exact unsigned_of_pos plainFormat hpos

/-- Zero is not near a positive number. -/
theorem Neighbourhood.digits_pos_of_holds {near : Neighbourhood} (hlow : 0 < near.low)
    {digits : Nat} {exponent : Int} (h : near.holds digits exponent = true) : 0 < digits := by
  rcases Nat.eq_zero_or_pos digits with rfl | hpos
  · have hfactor : 0 < if exponent < 0 then Nat.pow 10 exponent.natAbs else 1 := by
      split
      · exact Nat.pow_pos (by decide)
      · decide
    have hpoint := Nat.mul_pos hlow hfactor
    simp only [holds, Nat.zero_mul, ite_self] at h
    split at h
    · simp only [Bool.and_eq_true, decide_eq_true_eq] at h
      omega
    · simp only [Bool.and_eq_true, decide_eq_true_eq] at h
      omega
  · exact hpos

/-- The search for a shortest decimal near a positive number ends with a decimal that can be
written. -/
theorem Neighbourhood.shortest_from_written {near : Neighbourhood} (hlow : 0 < near.low)
    (order : Int) (tries count : Nat) : (near.shortestFrom order tries count).IsWritten := by
  have hnearest : ∀ {exponent decimal}, near.nearest? exponent = some decimal →
      0 < decimal.digits := by
    intro exponent decimal h
    obtain ⟨digits, hfind, rfl⟩ := Option.map_eq_some_iff.mp h
    have hholds := List.find?_some hfind
    exact near.digits_pos_of_holds hlow hholds
  induction tries generalizing count with
  | zero =>
      rw [shortestFrom]
      cases h : near.nearest? (order - count) with
      | none => exact .inr rfl
      | some decimal => exact .inl (hnearest h)
  | succ tries ih =>
      rw [shortestFrom]
      split
      case h_1 decimal h => exact .inl (hnearest h)
      case h_2 => exact ih (count + 1)

/-- The reals that round to a positive number are positive. -/
theorem neighbourhood_low_pos {mantissa : Nat} (h : mantissa ≠ 0) (exponent : Int) :
    0 < (neighbourhood mantissa exponent).low := by
  simp only [neighbourhood]
  refine Nat.mul_pos ?_ ?_
  · split <;> omega
  · split
    · decide
    · exact Nat.pow_pos (by decide)

/-- A finite floating-point number is written as a number of JSON. -/
theorem number_of_finite (negative : Bool) (mantissa : Nat) (exponent : Int) :
    IsNumber (text (.finite negative mantissa exponent)).toList := by
  have hsign : (if negative then ['-'] else []) ∈ [[], ['-']] := by
    cases negative <;> simp
  simp only [text]
  split
  case isTrue =>
      rw [String.toList_ofList]
      exact unsigned_of_fraction .zero digits_zero _ hsign
  case isFalse hmantissa =>
      rw [String.toList_ofList]
      have hlow := neighbourhood_low_pos (show mantissa ≠ 0 by simpa using hmantissa) exponent
      exact (Neighbourhood.shortest_from_written hlow _ 17 0).unsigned _ hsign

end Double

end ChannelLint
