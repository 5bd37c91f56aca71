/-!
# Double-precision numbers

Floating-point numbers of 64 bits as exact values: a finite number is `mantissa * 2 ^ exponent`
with a mantissa below `2 ^ 53`. `Double.ofDecimal` reads a decimal as the nearest such number, a
tie going to the even mantissa.
-/

namespace ChannelLint

/-- A floating-point number of 64 bits. A finite number has a mantissa below `2 ^ 53` and an
exponent of at least `-1074`; the mantissa is at least `2 ^ 52` unless the exponent is least. -/
inductive Double where
  /-- Not a number. -/
  | nan
  /-- Beyond all finite numbers, on the negative or the positive side. -/
  | infinity (negative : Bool)
  /-- The number `mantissa * 2 ^ exponent`, with its sign. -/
  | finite (negative : Bool) (mantissa : Nat) (exponent : Int)
  deriving DecidableEq, Repr

namespace Double

/-- The quotient of two naturals rounded to the nearest natural, a tie going to the even one. -/
def divNearest (num den : Nat) : Nat :=
  let quotient := num / den
  let rest := num % den
  if 2 * rest < den then quotient
  else if den < 2 * rest then quotient + 1
  else if quotient % 2 == 0 then quotient else quotient + 1

/-- The numerator and denominator of `num / den` divided by `2 ^ exponent`. -/
def scaleDown (num den : Nat) (exponent : Int) : Nat × Nat :=
  if exponent < 0 then (num * Nat.pow 2 exponent.natAbs, den)
  else (num, den * Nat.pow 2 exponent.natAbs)

/-- The exponent at which the positive quotient `num / den` has a mantissa of 53 bits. -/
def normalExponent (num den : Nat) : Int :=
  let guess : Int := (Nat.log2 num : Int) - (Nat.log2 den : Int) - 52
  let scaled := scaleDown num den guess
  if scaled.1 / scaled.2 < Nat.pow 2 52 then guess - 1 else guess

/-- The double nearest to the positive quotient `num / den`. -/
def ofQuotient (negative : Bool) (num den : Nat) : Double :=
  let exponent := max (normalExponent num den) (-1074)
  let scaled := scaleDown num den exponent
  let mantissa := divNearest scaled.1 scaled.2
  let (mantissa, exponent) :=
    if mantissa == Nat.pow 2 53 then (Nat.pow 2 52, exponent + 1) else (mantissa, exponent)
  if 971 < exponent then infinity negative else finite negative mantissa exponent

/-- The double nearest to `digits * 10 ^ exponent`. -/
def ofDecimal (negative : Bool) (digits : Nat) (exponent : Int) : Double :=
  if digits == 0 then finite negative 0 (-1074)
  else if 400 < exponent then infinity negative
  else if 0 ≤ exponent then ofQuotient negative (digits * Nat.pow 10 exponent.natAbs) 1
  else if Nat.log2 digits + 1200 < exponent.natAbs then finite negative 0 (-1074)
  else ofQuotient negative digits (Nat.pow 10 exponent.natAbs)

end Double

end ChannelLint
