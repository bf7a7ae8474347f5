/-!
# Binary64 numbers

Positive binary64 numbers with a full mantissa of 53 bits, computed with exact
whole numbers. The exponent is not bounded: the numbers met here lie between
`10 ^ -28` and `10 ^ 29`, far inside the range of the format.
-/

namespace DataFormula

/-- The number `mantissa * 2 ^ exponent`. -/
structure Binary64 where
  /-- The mantissa, of 53 bits unless the number is zero. -/
  mantissa : Nat
  /-- The power of two it is multiplied with. -/
  exponent : Int
deriving DecidableEq

/-- The whole number nearest to a quotient, the even one of two equally near. -/
def nearestEven (numerator denominator : Nat) : Nat :=
  let quotient := numerator / denominator
  let remainder := numerator % denominator
  if denominator < 2 * remainder ∨ (2 * remainder = denominator ∧ quotient % 2 = 1) then
    quotient + 1
  else quotient

/-- A quotient divided by a power of the base, again as a quotient. -/
def scaleDown (base : Nat) (exponent : Int) (numerator denominator : Nat) : Nat × Nat :=
  (numerator * base.pow (-exponent).toNat, denominator * base.pow exponent.toNat)

namespace Binary64

/-- The exponent with which the mantissa of a positive quotient has 53 bits. -/
def exponentOf (numerator denominator : Nat) : Int :=
  let guess : Int := (Nat.log2 numerator : Int) - Nat.log2 denominator - 52
  let (n, d) := scaleDown 2 guess numerator denominator
  if n < d * Nat.pow 2 52 then guess - 1 else guess

/-- The binary64 number nearest to a quotient, with an even mantissa if two are
equally near. -/
def ofRatio (numerator denominator : Nat) : Binary64 :=
  let exponent := exponentOf numerator denominator
  let (n, d) := scaleDown 2 exponent numerator denominator
  let mantissa := nearestEven n d
  if mantissa = Nat.pow 2 53 then ⟨Nat.pow 2 52, exponent + 1⟩ else ⟨mantissa, exponent⟩

/-- The numerator of the exact value. -/
def numerator (x : Binary64) : Nat := x.mantissa * Nat.pow 2 x.exponent.toNat

/-- The denominator of the exact value. -/
def denominator (x : Binary64) : Nat := Nat.pow 2 (-x.exponent).toNat

/-- The binary64 number nearest to a whole number. -/
def ofNat (n : Nat) : Binary64 := ofRatio n 1

/-- The product, rounded once. -/
def mul (x y : Binary64) : Binary64 :=
  ofRatio (x.numerator * y.numerator) (x.denominator * y.denominator)

/-- The quotient, rounded once. -/
def div (x y : Binary64) : Binary64 :=
  ofRatio (x.numerator * y.denominator) (x.denominator * y.numerator)

end Binary64

end DataFormula
