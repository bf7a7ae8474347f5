/-!
# Decimal numbers

A decimal number is a whole mantissa below `2 ^ 96` and a scale of at most 28
digits behind the point. Reading a numeral keeps every digit that fits and
rounds at the first digit behind the point that does not; a whole part that does
not fit makes the numeral no decimal number. Digits may be grouped by `_`, which
counts for nothing except where the digits end: behind the last place of a number
with a short mantissa it ends the reading without rounding.
-/

namespace DataFormula

/-- The number `mantissa / 10 ^ scale`, or its negative. -/
structure Decimal where
  /-- Whether the number is below zero. -/
  negative : Bool
  /-- All digits, read as one whole number. -/
  mantissa : Nat
  /-- How many of the digits stand behind the point. -/
  scale : Nat
deriving DecidableEq

namespace Decimal

/-- Every mantissa is below this bound. -/
def mantissaBound : Nat := Nat.pow 2 96

/-- The most digits that can stand behind the point. -/
def maxScale : Nat := 28

/-- The value of a decimal digit. -/
def digitValue (c : Char) : Nat := c.toNat - '0'.toNat

/-- A mantissa and its scale after the cut before the digit `next`, with a half
or more rounded up. A mantissa that rounds up to the bound loses a digit, and
with no digit behind the point it does not fit. -/
def cut (mantissa scale next : Nat) : Option (Nat × Nat) :=
  if next < 5 then some (mantissa, scale)
  else if mantissa + 1 < mantissaBound then some (mantissa + 1, scale)
  else if scale = 0 then none
  else some ((mantissa + 5) / 10, scale - 1)

/-- A mantissa below this bound has room for another digit within 64 bits. -/
def narrowBound : Nat := Nat.pow 2 64 / 10 - 255

/-- Whether a text may stand behind the place where reading stops. -/
def isTail (text : List Char) : Bool := text.all fun c => c.isDigit || c == '_'

/-- Reads the part behind the point, given what was read before it; `digits`
says whether a digit was read already. Reading stops at the first digit that does
not fit. It stops at a `_` behind the last place as well, as if that were a zero,
if the digit in the last place still found a narrow mantissa. -/
def readFraction (mantissa scale : Nat) (digits : Bool) : List Char → Option (Nat × Nat)
  | [] => if digits then some (mantissa, scale) else none
  | c :: text =>
    if c.isDigit then
      if scale < maxScale ∧ mantissa * 10 + digitValue c < mantissaBound then
        readFraction (mantissa * 10 + digitValue c) (scale + 1) true text
      else if isTail text then cut mantissa scale (digitValue c)
      else none
    else if c = '_' ∧ digits then
      if scale = maxScale ∧ mantissa / 10 < narrowBound then
        if isTail text then some (mantissa, scale) else none
      else readFraction mantissa scale digits text
    else none

/-- Behind the last place `_` hides the next digit from a short mantissa only. -/
example :
    readFraction 1 28 true ['_', '9'] = some (1, 28) ∧
      readFraction (10 ^ 28 + 1) 28 true ['_', '9'] = some (10 ^ 28 + 2, 28) := by
  decide +kernel

/-- Reads a numeral without a sign, given what was read of its whole part. -/
def readWhole (mantissa : Nat) (digits : Bool) : List Char → Option (Nat × Nat)
  | [] => if digits then some (mantissa, 0) else none
  | c :: text =>
    if c.isDigit then
      if mantissa * 10 + digitValue c < mantissaBound then
        readWhole (mantissa * 10 + digitValue c) true text
      else none
    else if c = '_' ∧ digits then readWhole mantissa digits text
    else if c = '.' then readFraction mantissa 0 digits text
    else none

/-- A decimal number from its sign and what was read behind it; zero has no sign. -/
def signed (negative : Bool) : Nat × Nat → Decimal
  | (mantissa, scale) => ⟨negative && mantissa != 0, mantissa, scale⟩

/-- The decimal number a text writes: perhaps a sign, then digits with at most
one point among them, at least one digit in all, and `_` anywhere behind the
first digit. A `_` is skipped, unless reading stops there. -/
def ofChars? : List Char → Option Decimal
  | '-' :: text => (readWhole 0 false text).map (signed true)
  | '+' :: text => (readWhole 0 false text).map (signed false)
  | text => (readWhole 0 false text).map (signed false)

/-- The digits of the mantissa, with zeros in front where the point needs them. -/
def digits (number : Decimal) : List Char :=
  let significant := Nat.toDigits 10 number.mantissa
  List.replicate (number.scale + 1 - significant.length) '0' ++ significant

/-- The digits before the point. -/
def whole (number : Decimal) : List Char :=
  number.digits.take (number.digits.length - number.scale)

/-- The digits behind the point. -/
def fraction (number : Decimal) : List Char :=
  number.digits.drop (number.digits.length - number.scale)

/-- The numeral of a decimal number, with a point exactly if its scale is not zero. -/
def text (number : Decimal) : String :=
  String.ofList <|
    (if number.negative then ['-'] else []) ++ number.whole ++
      if number.scale = 0 then [] else '.' :: number.fraction

/-- A mantissa and its scale without the zeros at the end of the fraction. -/
def stripZeros : (mantissa scale : Nat) → Nat × Nat
  | mantissa, 0 => (mantissa, 0)
  | mantissa, scale + 1 =>
    if mantissa % 10 = 0 then stripZeros (mantissa / 10) scale else (mantissa, scale + 1)

/-- The same number with the fewest digits behind the point. -/
def normalize (number : Decimal) : Decimal :=
  signed number.negative (stripZeros number.mantissa number.scale)

end Decimal

end DataFormula
