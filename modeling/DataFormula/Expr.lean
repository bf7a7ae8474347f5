import DataFormula.Operator

/-!
# Expressions

The tree of a formula. Every node keeps the token it was built from, and the
tokens of a tree read from left to right are the tokens of the formula
(`Expr.tokens`).
-/

namespace DataFormula

/-- The shape of a node as it is named to users. Formulas are built of values,
operators, identifiers, references and accesses; the other names are reserved. -/
inductive ExprKind where
  /-- A literal. -/
  | value
  /-- An operation or a negation. -/
  | operator
  /-- Reserved for calls of functions. -/
  | function
  /-- A word that is a key. -/
  | identifier
  /-- Reserved for truth values. -/
  | boolean
  /-- Reserved for lists. -/
  | list
  /-- Reserved for evaluations. -/
  | evaluate
  /-- Reserved for labels. -/
  | label
  /-- A value of the data context. -/
  | reference
  /-- Reserved for definitions of functions. -/
  | functionDefinition
  /-- Reserved for conditional expressions. -/
  | conditional
  /-- A member of an object. -/
  | access
  /-- Reserved for loops. -/
  | loop
  /-- Reserved for blocks that bind names. -/
  | binding
  /-- Reserved for the empty expression. -/
  | nothing
deriving DecidableEq

namespace ExprKind

/-- Every shape, in the order in which they are listed to users. -/
def all : List ExprKind :=
  [value, operator, function, identifier, boolean, list, evaluate, label, reference,
    functionDefinition, conditional, access, loop, binding, nothing]

/-- The name of a shape. -/
def name : ExprKind → String
  | value => "value"
  | operator => "operator"
  | function => "function"
  | identifier => "identifier"
  | boolean => "boolean"
  | list => "list"
  | evaluate => "evaluate"
  | label => "label"
  | reference => "reference"
  | functionDefinition => "function_definition"
  | conditional => "if"
  | access => "access"
  | loop => "for"
  | binding => "with"
  | nothing => "nothing"

end ExprKind

/-- An expression. -/
inductive Expr where
  /-- A literal number, string, `true` or `false`. -/
  | value (token : Token)
  /-- A word that is the key of an access. -/
  | identifier (token : Token)
  /-- A value of the data context. -/
  | reference (token : Token)
  /-- A binary operation, with the token of its operator. -/
  | operation (operator : Operator) (token : Token) (left right : Expr)
  /-- A negation, with the token of its sign. -/
  | negate (token : Token) (operand : Expr)
  /-- The member of an object under a key, with the token of the point between them. -/
  | access (token : Token) (object key : Expr)
deriving DecidableEq

namespace Expr

/-- The shape of a node. -/
def kind : Expr → ExprKind
  | value _ => .value
  | identifier _ => .identifier
  | reference _ => .reference
  | operation .. => .operator
  | negate .. => .operator
  | access .. => .access

/-- The token a node was built from. -/
def token : Expr → Token
  | value token => token
  | identifier token => token
  | reference token => token
  | operation _ token _ _ => token
  | negate token _ => token
  | access token _ _ => token

/-- The left operand of an operation or the object of an access. -/
def left? : Expr → Option Expr
  | operation _ _ left _ => some left
  | access _ object _ => some object
  | _ => none

/-- The right operand of an operation, the operand of a negation or the key of an
access. -/
def right? : Expr → Option Expr
  | operation _ _ _ right => some right
  | negate _ operand => some operand
  | access _ _ key => some key
  | _ => none

/-- Whether a node has no operands. -/
def isLeaf : Expr → Bool
  | value _ | identifier _ | reference _ => true
  | operation .. | negate .. | access .. => false

/-- The tokens of an expression from left to right. -/
def tokens : Expr → List Token
  | value token => [token]
  | identifier token => [token]
  | reference token => [token]
  | operation _ token left right => left.tokens ++ token :: right.tokens
  | negate token operand => token :: operand.tokens
  | access token object key => object.tokens ++ token :: key.tokens

/-- An expression on one line, operators in front of their operands and
operations, negations and accesses in parentheses. -/
def text : Expr → String
  | value token => if token.kind = .string then Text.Quoted.quote token.data else token.data
  | identifier token => token.data
  | reference token => "$" ++ token.data
  | operation operator _ left right =>
    "(" ++ operator.symbol ++ " " ++ left.text ++ " " ++ right.text ++ ")"
  | negate _ operand => "(- " ++ operand.text ++ ")"
  | access _ object key => "(. " ++ object.text ++ " " ++ key.text ++ ")"

/-- The leaves are the nodes without a right operand. -/
theorem isLeaf_iff_right?_eq_none (expr : Expr) : expr.isLeaf = true ↔ expr.right? = none := by
  cases expr <;> simp [isLeaf, right?]

/-- Every expression has a token. -/
theorem tokens_ne_nil (expr : Expr) : expr.tokens ≠ [] := by
  cases expr <;> simp [tokens]

end Expr

end DataFormula
