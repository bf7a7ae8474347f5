import DataFormula.Position
import DataFormula.Text.Quoted
import DataFormula.Number.Decimal
import DataFormula.Number.Integer

/-!
# Tokens

A token is a classified piece of a formula's text, with what it says and where it
starts.
-/

namespace DataFormula

/-- The class of a token. -/
inductive TokenKind where
  /-- A whole number. -/
  | integer
  /-- A number with digits behind a point. -/
  | float
  /-- A string literal. -/
  | string
  /-- A bare word: a field name, `true` or `false`. -/
  | identifier
  /-- One punctuation character. -/
  | symbol
  /-- A name or number behind `$`, for a value of the data context. -/
  | reference
deriving DecidableEq

namespace TokenKind

/-- Every class, in the order in which they are listed to users. -/
def all : List TokenKind := [integer, float, string, identifier, symbol, reference]

/-- The name of a class. -/
def name : TokenKind → String
  | integer => "Integer"
  | float => "Float"
  | string => "String"
  | identifier => "Identifier"
  | symbol => "Symbol"
  | reference => "Reference"

/-- The class of a given name. -/
def ofName? (name : String) : Option TokenKind :=
  all.find? fun kind => kind.name == name

/-- A class is found by its name. -/
theorem ofName?_name (kind : TokenKind) : ofName? kind.name = some kind := by
  cases kind <;> decide

end TokenKind

/-- A token. Its data is the digits of a number, the content of a string literal,
the name of a reference without its `$`, a word, or a punctuation character. -/
structure Token where
  /-- The class of the token. -/
  kind : TokenKind
  /-- What the token says. -/
  data : String
  /-- Where the token starts. -/
  position : Position
deriving DecidableEq

namespace Token

/-- Whether a token is a given punctuation character. -/
def isSymbol (token : Token) (symbol : String) : Bool :=
  token.kind == .symbol && token.data == symbol

/-- Whether a token is one of the words `true` and `false`. -/
def isBoolean (token : Token) : Bool :=
  token.kind == .identifier && (token.data == "true" || token.data == "false")

/-- The value of a whole number that fits 64 bits. -/
def integer? (token : Token) : Option Int :=
  if token.kind = .integer then Integer.ofChars? token.data.toList else none

/-- The value of a number token as a decimal number. -/
def decimal? (token : Token) : Option Decimal :=
  if token.kind = .integer ∨ token.kind = .float then Decimal.ofChars? token.data.toList
  else none

/-- The text of a token: string literals are quoted, references have their `$`. -/
def text (token : Token) : String :=
  match token.kind with
  | .string => Text.Quoted.quote token.data
  | .reference => "$" ++ token.data
  | _ => token.data

end Token

end DataFormula
