import DataFormula.Token

/-!
# Operators

The binary operators of formulas, on two levels: `*`, `/` and `%` bind tighter
than `+` and `-`.
-/

namespace DataFormula

/-- A binary operator. -/
inductive Operator where
  /-- Addition, or joining of strings. -/
  | add
  /-- Subtraction. -/
  | subtract
  /-- Multiplication. -/
  | multiply
  /-- Division. -/
  | divide
  /-- Remainder of a division. -/
  | modulo
deriving DecidableEq

namespace Operator

/-- The punctuation character of an operator. -/
def symbol : Operator → String
  | add => "+"
  | subtract => "-"
  | multiply => "*"
  | divide => "/"
  | modulo => "%"

/-- The operator that a text spells. -/
def ofSymbol? (symbol : String) : Option Operator :=
  if symbol = "+" then some add
  else if symbol = "-" then some subtract
  else if symbol = "*" then some multiply
  else if symbol = "/" then some divide
  else if symbol = "%" then some modulo
  else none

/-- Whether an operator is on the looser level. -/
def isAdditive : Operator → Bool
  | add | subtract => true
  | multiply | divide | modulo => false

/-- Whether an operator is on the tighter level. -/
def isMultiplicative (operator : Operator) : Bool := !operator.isAdditive

/-- The operator that a token spells. -/
def ofToken? (token : Token) : Option Operator :=
  if token.kind = .symbol then ofSymbol? token.data else none

/-- An operator is found by its character, and by no other text. -/
theorem ofSymbol?_eq_some_iff {symbol : String} {operator : Operator} :
    ofSymbol? symbol = some operator ↔ symbol = operator.symbol := by
  constructor
  · intro found
    unfold ofSymbol? at found
    split at found
    · rename_i spelled
      cases found
      exact spelled
    split at found
    · rename_i spelled
      cases found
      exact spelled
    split at found
    · rename_i spelled
      cases found
      exact spelled
    split at found
    · rename_i spelled
      cases found
      exact spelled
    split at found
    · rename_i spelled
      cases found
      exact spelled
    · cases found
  · intro spelled
    subst spelled
    cases operator <;> decide

end Operator

end DataFormula
