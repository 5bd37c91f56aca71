import ChannelLint.Number.Double

/-!
# The shortest decimal of a double

`Double.shortest` finds the fewest decimal digits that read back as the number, and among decimals
of that length the nearest one. `Double.text` writes it: positionally for decimal exponents from
`-4` to `15`, and with a signed exponent of at least two digits otherwise.
-/

namespace ChannelLint.Double

/-! ## Decimals in the neighbourhood of a double -/

/-- The numerator and denominator of `num / den` divided by `10 ^ exponent`. -/
def scaleDownTen (num den : Nat) (exponent : Int) : Nat × Nat :=
  if exponent < 0 then (num * Nat.pow 10 exponent.natAbs, den)
  else (num, den * Nat.pow 10 exponent.natAbs)

/-- Whether `10 ^ order` does not exceed the quotient `num / den`. -/
def reachesOrder (num den : Nat) (order : Int) : Bool :=
  let scaled := scaleDownTen num den order
  scaled.2 ≤ scaled.1

/-- The greatest `order` such that `10 ^ order` does not exceed the positive quotient
`num / den`. -/
def decimalOrder (num den : Nat) : Int :=
  let guess : Int := (((Nat.log2 num : Int) - (Nat.log2 den : Int)) * 30103).fdiv 100000
  if reachesOrder num den (guess + 1) then guess + 1
  else if reachesOrder num den guess then guess
  else guess - 1

/-- The reals that round to a positive double: the numerators of the number and of the middle to
each neighbour over one denominator. -/
structure Neighbourhood where
  /-- The numerator of the lower end. -/
  low : Nat
  /-- The numerator of the number itself. -/
  value : Nat
  /-- The numerator of the upper end. -/
  high : Nat
  /-- The common denominator. -/
  den : Nat
  /-- Whether the ends themselves round to the number. -/
  closed : Bool

/-- The reals that round to the double `mantissa * 2 ^ exponent`. The gap below a power of two is
half the gap above it, and a tie goes to the even mantissa. -/
def neighbourhood (mantissa : Nat) (exponent : Int) : Neighbourhood :=
  let unit := if exponent < 0 then 1 else Nat.pow 2 exponent.natAbs
  let gap := if mantissa == Nat.pow 2 52 && -1074 < exponent then 1 else 2
  { low := (4 * mantissa - gap) * unit
    value := 4 * mantissa * unit
    high := (4 * mantissa + 2) * unit
    den := if exponent < 0 then 4 * Nat.pow 2 exponent.natAbs else 4
    closed := mantissa % 2 == 0 }

/-- Whether the decimal `digits * 10 ^ exponent` lies in the neighbourhood. -/
def Neighbourhood.holds (near : Neighbourhood) (digits : Nat) (exponent : Int) : Bool :=
  let point := if exponent < 0 then digits * near.den
    else digits * near.den * Nat.pow 10 exponent.natAbs
  let factor := if exponent < 0 then Nat.pow 10 exponent.natAbs else 1
  if near.closed then near.low * factor ≤ point && point ≤ near.high * factor
  else near.low * factor < point && point < near.high * factor

/-- The decimal `digits * 10 ^ exponent`. -/
structure Decimal where
  /-- The digits, read as a natural number. -/
  digits : Nat
  /-- The power of ten of the last digit. -/
  exponent : Int
  deriving DecidableEq, Repr

/-- The decimal nearest to the number among the multiples of `10 ^ exponent` that lie in its
neighbourhood, if there is one; only the two multiples beside the number can be nearest. -/
def Neighbourhood.nearest? (near : Neighbourhood) (exponent : Int) : Option Decimal :=
  let scaled := scaleDownTen near.value near.den exponent
  let floor := scaled.1 / scaled.2
  let rest := scaled.1 % scaled.2
  let floorFirst := 2 * rest < scaled.2 || (2 * rest == scaled.2 && floor % 2 == 0)
  let candidates := if floorFirst then [floor, floor + 1] else [floor + 1, floor]
  (candidates.find? (near.holds · exponent)).map (⟨·, exponent⟩)

/-- The decimal of the fewest digits, from `count` up, that reads back; `tries` bounds the search,
after which the whole part is taken. -/
def Neighbourhood.shortestFrom (near : Neighbourhood) (order : Int) : Nat → Nat → Decimal
  | 0, count => (near.nearest? (order - count)).getD ⟨near.value / near.den, 0⟩
  | tries + 1, count =>
      match near.nearest? (order - count) with
      | some decimal => decimal
      | none => near.shortestFrom order tries (count + 1)

/-- The shortest decimal that reads back as the double `mantissa * 2 ^ exponent`. -/
def shortest (mantissa : Nat) (exponent : Int) : Decimal :=
  let near := neighbourhood mantissa exponent
  near.shortestFrom (decimalOrder near.value near.den) 17 0

/-! ## Writing -/

/-- How decimals are written. -/
structure DecimalFormat where
  /-- The least power of ten of a first digit that is written positionally. -/
  leastPositional : Int
  /-- The greatest power of ten of a first digit that is written positionally. -/
  greatestPositional : Int
  /-- The least number of digits of an exponent. -/
  exponentDigits : Nat

/-- Numbers are positional from `10 ^ -4` up to below `10 ^ 16`, and an exponent has two digits or
more. -/
def plainFormat : DecimalFormat := ⟨-4, 15, 2⟩

/-- The digits without trailing zeros, and how many zeros were dropped. -/
def dropTrailingZeros (digits : List Char) : List Char × Nat :=
  let zeros := (digits.reverse.takeWhile (· == '0')).length
  (digits.take (digits.length - zeros), zeros)

/-- The text padded with zeros on the left to the given length. -/
def padZeros (length : Nat) (digits : List Char) : List Char :=
  List.replicate (length - digits.length) '0' ++ digits

/-- Writes a positive decimal in the given format. -/
def Decimal.write (format : DecimalFormat) (decimal : Decimal) : List Char :=
  let (digits, zeros) := dropTrailingZeros (Nat.toDigits 10 decimal.digits)
  let order : Int := decimal.exponent + zeros + digits.length - 1
  if format.leastPositional ≤ order && order ≤ format.greatestPositional then
    if order < 0 then
      '0' :: '.' :: List.replicate (order.natAbs - 1) '0' ++ digits
    else
      let whole := digits.take (order.natAbs + 1)
      let part := digits.drop (order.natAbs + 1)
      whole ++ List.replicate (order.natAbs + 1 - whole.length) '0' ++
        '.' :: (if part.isEmpty then ['0'] else part)
  else
    let part := digits.drop 1
    digits.take 1 ++ (if part.isEmpty then [] else '.' :: part) ++
      'e' :: (if order < 0 then '-' else '+') ::
        padZeros format.exponentDigits (Nat.toDigits 10 order.natAbs)

/-- The text of a double: its shortest decimal with a sign, or the name of a value that is not
finite. -/
def text : Double → String
  | nan => "nan"
  | infinity negative => if negative then "-inf" else "inf"
  | finite negative mantissa exponent =>
      let sign := if negative then ['-'] else []
      if mantissa == 0 then String.ofList (sign ++ ['0', '.', '0'])
      else String.ofList (sign ++ (shortest mantissa exponent).write plainFormat)

end ChannelLint.Double
