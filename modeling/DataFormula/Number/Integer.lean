/-!
# Integers of 64 bits

The numerals of signed integers of 64 bits: perhaps a sign, then decimal digits.
-/

namespace DataFormula.Integer

/-- The number that a non-empty run of decimal digits writes. -/
def magnitude? (text : List Char) : Option Nat :=
  if text.isEmpty then none
  else if text.all Char.isDigit then some (Nat.ofDigitChars 10 text 0)
  else none

/-- Integers from `-2 ^ 63` to `2 ^ 63 - 1`. -/
def fits (n : Int) : Bool := -(Nat.pow 2 63 : Int) ≤ n && n < Nat.pow 2 63

/-- The integer that a text writes, if it fits 64 bits. -/
def ofChars? : List Char → Option Int
  | '-' :: text => ((magnitude? text).map fun n => -(n : Int)).filter fits
  | '+' :: text => ((magnitude? text).map Int.ofNat).filter fits
  | text => ((magnitude? text).map Int.ofNat).filter fits

/-- The numeral of an integer, with a sign only below zero. -/
def text (n : Int) : String :=
  (if n < 0 then "-" else "") ++ n.natAbs.repr

end DataFormula.Integer
