import DataFormula.Number.Binary64

/-!
# Shortest decimal text of a binary64 number

A binary64 number is written with the fewest digits that read back as the same
number, and of the numerals with that many digits with the nearest one. The
search walks the decimal grids from one digit upwards; on each grid only the two
neighbours of the number can be hits.
-/

namespace DataFormula.Binary64

/-- The numeral `digits * 10 ^ exponent`, its digits without zeros at the end. -/
structure Shortest where
  /-- The digits, read as one whole number. -/
  digits : Nat
  /-- The power of ten they are multiplied with. -/
  exponent : Int
deriving DecidableEq

/-- The exponent of the first decimal digit of a positive number. -/
def decimalExponent (x : Binary64) : Int :=
  let guess : Int :=
    ((Nat.toDigits 10 x.numerator).length : Int) - (Nat.toDigits 10 x.denominator).length
  let (n, d) := scaleDown 10 guess x.numerator x.denominator
  if n < d then guess - 1 else guess

/-- The number nearest to `digits * 10 ^ exponent`. -/
def ofScaled (digits : Nat) (exponent : Int) : Binary64 :=
  ofRatio (digits * Nat.pow 10 exponent.toNat) (Nat.pow 10 (-exponent).toNat)

/-- The nearest point of the grid of multiples of `10 ^ exponent` that reads back
as the number, if there is one. -/
def onGrid? (x : Binary64) (exponent : Int) : Option Nat :=
  let (n, d) := scaleDown 10 exponent x.numerator x.denominator
  let below := n / d
  let nearest := nearestEven n d
  let other := if nearest = below then below + 1 else below
  if ofScaled nearest exponent = x then some nearest
  else if ofScaled other exponent = x then some other
  else none

/-- A numeral without the zeros at the end of its digits; `limit` bounds how many
are taken off. -/
def dropZeros : (limit digits : Nat) → (exponent : Int) → Shortest
  | 0, digits, exponent => ⟨digits, exponent⟩
  | limit + 1, digits, exponent =>
    if digits ≠ 0 ∧ digits % 10 = 0 then dropZeros limit (digits / 10) (exponent + 1)
    else ⟨digits, exponent⟩

/-- The shortest numeral that reads back as a positive number. Seventeen digits
are always enough. -/
def shortest (x : Binary64) : Shortest :=
  let first := x.decimalExponent
  let found := (List.range 17).findSome? fun (more : Nat) =>
    (x.onGrid? (first - more)).map fun digits => dropZeros 17 digits (first - more)
  found.getD ⟨0, 0⟩

/-- The least exponent of a first digit that is written without an exponent. -/
def leastPositional : Int := -5

/-- The greatest exponent of a first digit that is written without an exponent. -/
def greatestPositional : Int := 15

/-- The text of a numeral. Between the positional limits it has a point and at
least one digit on each side of it; outside them it has one digit before the
point, no point if that is the only one, and a signed exponent. -/
def Shortest.text (numeral : Shortest) : String :=
  let digits := Nat.toDigits 10 numeral.digits
  let first : Int := numeral.exponent + digits.length - 1
  if first < leastPositional ∨ greatestPositional < first then
    let behind := digits.drop 1
    String.ofList <|
      digits.take 1 ++ (if behind.isEmpty then [] else '.' :: behind) ++
        ['e', if first < 0 then '-' else '+'] ++ Nat.toDigits 10 first.natAbs
  else if first < 0 then
    String.ofList (['0', '.'] ++ List.replicate (first.natAbs - 1) '0' ++ digits)
  else
    let wide := digits ++ List.replicate (first.toNat + 1 - digits.length) '0'
    let behind := wide.drop (first.toNat + 1)
    String.ofList <|
      wide.take (first.toNat + 1) ++ '.' :: (if behind.isEmpty then ['0'] else behind)

/-- The first digit stands at most at the fifth place behind the point. -/
example :
    (⟨15, -6⟩ : Shortest).text = "0.000015" ∧ (⟨15, -7⟩ : Shortest).text = "1.5e-6" := by
  decide +kernel

/-- A positional text has at most sixteen digits before the point. -/
example :
    (⟨9, 15⟩ : Shortest).text = "9000000000000000.0" ∧
      (⟨9, 16⟩ : Shortest).text = "9e+16" := by
  decide +kernel

end DataFormula.Binary64
