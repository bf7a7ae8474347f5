import DataFormula.Token

/-!
# Syntax errors

A text is no formula either because it does not split into tokens, or because its
tokens are in the wrong order. Both are reported as a cause and a place; the
wording of every cause is `LexicalCause.message` or `GrammarCause.message`.
-/

namespace DataFormula

/-- Why a text does not split into tokens. -/
inductive LexicalCause where
  /-- A character that starts no token. -/
  | unexpectedCharacter (c : Char)
  /-- A `$` that no name or number follows. -/
  | missingName
  /-- A backslash in a string literal before a character it does not escape. -/
  | invalidEscape (c : Char)
  /-- A string literal that is not closed. -/
  | unterminatedString
  /-- A cause in a caller's own words. -/
  | other (message : String)
deriving DecidableEq

/-- Why a list of tokens does not start with a formula. -/
inductive GrammarCause where
  /-- There are no tokens. -/
  | emptyInput
  /-- A negation at the end of the tokens. -/
  | loneNegation
  /-- A token that starts no term where one is needed. -/
  | missingTerm
  /-- A multiplicative operator that no term follows. -/
  | isolatedOperator
  /-- An additive operator that no expression follows. -/
  | missingExpression
  /-- A point at the end of the tokens. -/
  | missingKey
  /-- A token behind a point that is no key. -/
  | invalidKey
  /-- More levels of nesting than a formula may have. -/
  | tooDeep
  /-- A cause in a caller's own words. -/
  | other (message : String)
deriving DecidableEq

/-- The stage of reading a formula that finds an error. -/
inductive Stage where
  /-- Splitting the text into tokens. -/
  | tokenizer
  /-- Building the formula from the tokens. -/
  | parser
deriving DecidableEq

namespace Stage

/-- Every stage, in the order in which a text passes them. -/
def all : List Stage := [tokenizer, parser]

/-- The name of a stage. -/
def name : Stage → String
  | tokenizer => "Tokenizer"
  | parser => "Parser"

end Stage

/-- A text or a list of tokens that is no formula. -/
inductive SyntaxError where
  /-- The text does not split into tokens at a place. -/
  | lexical (cause : LexicalCause) (position : Position)
  /-- The tokens are no formula, because of a token if there is one to blame. -/
  | grammatical (cause : GrammarCause) (token : Option Token)
deriving DecidableEq

namespace LexicalCause

/-- The wording of a cause. -/
def message : LexicalCause → String
  | unexpectedCharacter c => "unexpected character '" ++ c.toString ++ "'"
  | missingName => "reference is missing a name"
  | invalidEscape c => "invalid escape sequence: \\" ++ c.toString
  | unterminatedString => "unterminated string: missing closing quote"
  | other message => message

end LexicalCause

namespace GrammarCause

/-- The wording of a cause. -/
def message : GrammarCause → String
  | emptyInput => "cannot parse an empty input"
  | loneNegation => "`-` is not a valid expression"
  | missingTerm => "expecting a valid Term to start expression"
  | isolatedOperator => "isolated operator at end of input"
  | missingExpression => "expecting expression"
  | missingKey => "list accessor missing value"
  | invalidKey => "invalid list accessor"
  | tooDeep => "expression nests too deeply"
  | other message => message

end GrammarCause

namespace SyntaxError

/-- The stage that found an error. -/
def origin : SyntaxError → Stage
  | lexical .. => .tokenizer
  | grammatical .. => .parser

/-- The wording of an error without its place. -/
def message : SyntaxError → String
  | lexical cause _ => cause.message
  | grammatical cause _ => cause.message

/-- The token an error blames. -/
def token? : SyntaxError → Option Token
  | lexical .. => none
  | grammatical _ token => token

/-- The place of an error: that of the token it blames, if it blames one. -/
def position? : SyntaxError → Option Position
  | lexical _ position => some position
  | grammatical _ token => token.map (·.position)

/-- An error on one line, with its stage and, if known, its place. -/
def text (error : SyntaxError) : String :=
  let place :=
    match error.position? with
    | some position => " at " ++ position.text
    | none => ""
  error.origin.name ++ " error" ++ place ++ ": " ++ error.message

end SyntaxError

end DataFormula
