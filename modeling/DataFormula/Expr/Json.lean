import DataFormula.Expr
import DataFormula.Json
import DataFormula.Number.Readback

/-!
# Expressions as JSON

A node becomes an object with its kind, its token and its operands. A token
becomes an object with its class, its data, its line and column, and for numbers
their value. Members are in alphabetical order.
-/

namespace DataFormula

/-- The numeral of a number token's value. A whole number has one if it fits 64
bits, a number with a point if it is a decimal number. -/
def Token.value? (token : Token) : Option String :=
  match token.kind with
  | .integer => token.integer?.map Integer.text
  | .float => token.decimal?.map fun number => number.normalize.readbackText
  | _ => none

/-- A token as a JSON object. -/
def Token.toJson (token : Token) : Json :=
  .object <|
    .cons "column" (.number token.position.column.repr) <|
    .cons "data" (.string token.data) <|
    .cons "kind" (.string token.kind.name) <|
    .cons "line" (.number token.position.line.repr) <|
    .optional "value" (token.value?.map .number) .nil

namespace Expr

/-- A node as a JSON object, from what its operands are as JSON. -/
def nodeJson (kind : ExprKind) (token : Token) (left right : Option Json) : Json :=
  .object <|
    .cons "kind" (.string kind.name) <|
    .optional "left" left <|
    .optional "right" right <|
    .cons "token" token.toJson .nil

/-- An expression as a JSON object. -/
def toJson : Expr → Json
  | value token => nodeJson .value token none none
  | identifier token => nodeJson .identifier token none none
  | reference token => nodeJson .reference token none none
  | operation _ token left right => nodeJson .operator token left.toJson right.toJson
  | negate token operand => nodeJson .operator token none operand.toJson
  | access token object key => nodeJson .access token object.toJson key.toJson

/-- An expression as compact JSON text. -/
def json (expr : Expr) : String := expr.toJson.compact

/-- An expression as indented JSON text. -/
def prettyJson (expr : Expr) : String := expr.toJson.pretty

end Expr

end DataFormula
