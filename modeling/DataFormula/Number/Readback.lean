import DataFormula.Number.Decimal
import DataFormula.Number.Shortest

/-!
# Decimal numbers read as words or binary64 numbers

A decimal number is read back as a whole number if it is one and fits a word of
64 bits, and as a binary64 number otherwise. That number need not be the nearest
one: only the digits that fit a word are taken, and they are multiplied with or
divided by a power of ten that is itself rounded.
-/

namespace DataFormula.Decimal

/-- Words are below this bound. -/
def wordBound : Nat := Nat.pow 2 64

/-- Takes digits into a word as long as they fit; gives the word and the digits
left over. -/
def fillWord (word : Nat) : List Char → Nat × List Char
  | [] => (word, [])
  | c :: text =>
    if word * 10 + digitValue c < wordBound then fillWord (word * 10 + digitValue c) text
    else (word, c :: text)

/-- The binary64 number read from the digits of a decimal number, its sign left
out. Digits of the whole part that do not fit a word raise the exponent, digits
behind the point that do not fit are dropped. -/
def toBinary64 (number : Decimal) : Binary64 :=
  let (whole, dropped) := fillWord 0 number.whole
  let (word, left) := fillWord whole number.fraction
  let exponent : Int := (dropped.length : Int) - (number.fraction.length - left.length : Nat)
  let power := Binary64.ofNat (Nat.pow 10 exponent.natAbs)
  if exponent < 0 then (Binary64.ofNat word).div power else (Binary64.ofNat word).mul power

/-- Whether a number is whole and fits a word: unsigned if it is not negative,
signed otherwise. -/
def isWord (number : Decimal) : Bool :=
  number.scale == 0 &&
    if number.negative then number.mantissa ≤ wordBound / 2 else number.mantissa < wordBound

/-- The numeral of a decimal number after it was read back. -/
def readbackText (number : Decimal) : String :=
  if number.isWord then number.text
  else (if number.negative then "-" else "") ++ number.toBinary64.shortest.text

/-- A number that takes more than 53 bits with its point left out is rounded twice. -/
example : (⟨false, 10000000000000005, 1⟩ : Decimal).readbackText = "1000000000000000.4" := by
  decide +kernel

/-- The greatest word is read as a whole number, the number above it is not. -/
example :
    (⟨false, 18446744073709551615, 0⟩ : Decimal).readbackText = "18446744073709551615" ∧
      (⟨false, 18446744073709551616, 0⟩ : Decimal).readbackText = "1.8446744073709552e+19" := by
  decide +kernel

end DataFormula.Decimal
