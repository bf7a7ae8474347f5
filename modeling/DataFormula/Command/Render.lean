import DataFormula.Expr.Json

/-!
# Formulas and tokens as text

The ways in which a formula is printed, and the listing of tokens.
-/

namespace DataFormula.Command

/-- How a formula is printed. -/
inductive OutputFormat where
  /-- On one line, operators first. -/
  | tree
  /-- As compact JSON. -/
  | json
  /-- As indented JSON. -/
  | prettyJson
deriving DecidableEq

/-- A formula is printed on one line unless JSON is asked for. -/
def OutputFormat.standard : OutputFormat := .tree

/-- A formula in a format. -/
def renderExpr (expr : Expr) : OutputFormat → String
  | .tree => expr.text
  | .json => expr.json
  | .prettyJson => expr.prettyJson

/-- A token with its place and its class, its data as it is. -/
def renderToken (token : Token) : String :=
  token.position.text ++ " " ++ token.kind.name ++ " " ++ token.data

/-- Tokens with a line feed between them. -/
def renderTokens (tokens : List Token) : String :=
  String.intercalate "\n" (tokens.map renderToken)

end DataFormula.Command
