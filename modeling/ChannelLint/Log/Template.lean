import ChannelLint.Value

/-!
# Message templates

A template is a text with slots such as `%s` or `%5d`, which are filled from a list of values in
order. A template that is filled must use every value.
-/

namespace ChannelLint.Log

/-- The shape of a slot: its marks, the least width and the precision. -/
structure SlotShape where
  /-- The value stands at the left of its field. -/
  left : Bool := false
  /-- A number that is not negative has a plus sign. -/
  plus : Bool := false
  /-- A number that is not negative has a blank in front. -/
  blank : Bool := false
  /-- A number is filled up with zeros. -/
  zeros : Bool := false
  /-- The least number of characters. -/
  width : Nat := 0
  /-- The most characters of a text, or the fewest digits of a number. -/
  precision : Option Nat := none
  deriving DecidableEq, Repr

/-- Reads the marks of a slot. -/
def readMarks (shape : SlotShape) : List Char → SlotShape × List Char
  | '-' :: rest => readMarks { shape with left := true } rest
  | '+' :: rest => readMarks { shape with plus := true } rest
  | ' ' :: rest => readMarks { shape with blank := true } rest
  | '0' :: rest => readMarks { shape with zeros := true } rest
  | rest => (shape, rest)

/-- Reads a number of ASCII digits; no digits are zero. -/
def readCount (text : List Char) : Nat × List Char :=
  let digits := text.takeWhile Char.isDigit
  (digits.foldl (fun value c => 10 * value + (c.toNat - '0'.toNat)) 0, text.drop digits.length)

/-- Reads the precision of a slot. -/
def readPrecision : List Char → Option Nat × List Char
  | '.' :: rest => let (count, more) := readCount rest; (some count, more)
  | rest => (none, rest)

/-- Reads the shape of a slot up to its letter. -/
def readShape (text : List Char) : SlotShape × List Char :=
  let (shape, afterMarks) := readMarks {} text
  let (width, afterWidth) := readCount afterMarks
  let (precision, rest) := readPrecision afterWidth
  ({ shape with width := width, precision := precision }, rest)

/-- Fills a text up with blanks to the width of a slot. -/
def SlotShape.pad (shape : SlotShape) (text : List Char) : List Char :=
  let blanks := List.replicate (shape.width - text.length) ' '
  if shape.left then text ++ blanks else blanks ++ text

/-- The text of a slot that shows a text. -/
def SlotShape.fillText (shape : SlotShape) (text : String) : List Char :=
  shape.pad (match shape.precision with
    | some most => text.toList.take most
    | none => text.toList)

/-- The text of a slot that shows a whole number by its digits. -/
def SlotShape.fillNumber (shape : SlotShape) (negative : Bool) (digits : List Char) : List Char :=
  let sign := if negative then ['-'] else if shape.plus then ['+']
    else if shape.blank then [' '] else []
  let full := List.replicate (shape.precision.getD 0 - digits.length) '0' ++ digits
  let zeros := if shape.zeros && !shape.left then
      List.replicate (shape.width - sign.length - full.length) '0' else []
  shape.pad (sign ++ zeros ++ full)

/-- The sign and size, as a fraction, of the number that a value stands for. -/
def fraction? : Value → Option (Bool × Nat × Nat)
  | .integer n => some (n < 0, n.natAbs, 1)
  | .bool b => some (false, if b then 1 else 0, 1)
  | .float (.finite negative mantissa exponent) =>
      some (if exponent < 0 then (negative, mantissa, Nat.pow 2 exponent.natAbs)
        else (negative, mantissa * Nat.pow 2 exponent.toNat, 1))
  | _ => none

/-- The whole number that a value stands for in a slot; a fraction is dropped. -/
def wholeNumber? (value : Value) : Option Int :=
  (fraction? value).map fun (negative, num, den) =>
    if negative then -((num / den : Nat) : Int) else (num / den : Nat)

/-- The digits of a fraction rounded to the given number of places, a tie going to the even
neighbour. -/
def fixedDigits (places num den : Nat) : List Char :=
  let scaled := (toString (Double.divNearest (num * Nat.pow 10 places) den)).toList
  let digits := List.replicate (places + 1 - scaled.length) '0' ++ scaled
  let whole := digits.take (digits.length - places)
  if places == 0 then whole else whole ++ '.' :: digits.drop (digits.length - places)

/-- The text that a slot with the given letter shows for a value. -/
def fillSlot? (shape : SlotShape) (letter : Char) (value : Value) : Option (List Char) :=
  if letter == 's' then some (shape.fillText value.display)
  else if letter == 'r' then some (shape.fillText value.literal)
  else if letter == 'd' || letter == 'i' || letter == 'u' then
    (wholeNumber? value).map fun n =>
      shape.fillNumber (n < 0) (toString n.natAbs).toList
  else if letter == 'f' then
    (fraction? value).map fun (negative, num, den) =>
      { shape with precision := none }.fillNumber negative
        (fixedDigits (shape.precision.getD 6) num den)
  else none

/-- Fills the slots of a template from the values; `fuel` bounds the number of characters. -/
def fillFrom : Nat → List Value → List Char → Option (List Char)
  | 0, _, _ => none
  | _ + 1, values, [] => if values.isEmpty then some [] else none
  | fuel + 1, values, '%' :: rest =>
      match readShape rest with
      | (_, '%' :: more) => (fillFrom fuel values more).map ('%' :: ·)
      | (shape, letter :: more) =>
          match values with
          | [] => none
          | value :: others => do
              let shown ← fillSlot? shape letter value
              let later ← fillFrom fuel others more
              pure (shown ++ later)
      | (_, []) => none
  | fuel + 1, values, c :: rest => (fillFrom fuel values rest).map (c :: ·)

/-- The message of a template: verbatim without values; nothing when a slot and its value do not
go together. -/
def fill? (template : String) (values : List Value) : Option String :=
  if values.isEmpty then some template
  else (fillFrom (template.length + 1) values template.toList).map String.ofList

end ChannelLint.Log
