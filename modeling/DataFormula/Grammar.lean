import DataFormula.Expr
import DataFormula.SyntaxError

/-!
# The grammar of formulas

```text
Literal      = <Integer> | <Float> | <String> | "true" | "false"
Factor       = Literal | Reference
Term         = Factor (('*' | '/' | '%') Term)?
Reference    = <Reference> Accessor*
Accessor     = '.' (<Integer> | <String> | <Identifier> | <Reference>)
Expression   = '-'? Term (('+' | '-') Expression)?
```

A rule looks at the tokens before it and answers with an `Outcome`. It is absent
if the first token cannot start it, and fails only behind an operator, a point or
a leading `-`. Both kinds of operations lean to the right, and a leading `-`
negates the whole expression behind it.

Every operand and every accessor costs one level of nesting. A rule is given the
number of levels that are left, and takes them apart by recursion.
-/

namespace DataFormula

/-- What a rule answers about the tokens before it. -/
inductive Outcome where
  /-- The first token does not start the rule. -/
  | absent
  /-- An expression, and the tokens behind it. -/
  | found (expr : Expr) (rest : List Token)
  /-- An error, and the tokens behind the place where it was seen. -/
  | failed (error : SyntaxError) (rest : List Token)
deriving DecidableEq

/-- The same outcome with the expression changed. -/
def Outcome.map (f : Expr → Expr) : Outcome → Outcome
  | absent => absent
  | found expr rest => found (f expr) rest
  | failed error rest => failed error rest

namespace Grammar

/-- The number of levels a formula may nest. -/
def maxDepth : Nat := 128

/-- The failure at tokens for which no level is left. -/
def tooDeep (tokens : List Token) : Outcome :=
  .failed (.grammatical .tooDeep tokens.head?) tokens

/-- Whether a token is a literal. -/
def isLiteral (token : Token) : Bool :=
  match token.kind with
  | .integer | .float | .string => true
  | .identifier => token.isBoolean
  | .symbol | .reference => false

/-- The key that a token behind a point is. -/
def key? (token : Token) : Option Expr :=
  match token.kind with
  | .integer | .string => some (.value token)
  | .identifier => some (.identifier token)
  | .reference => some (.reference token)
  | .float | .symbol => none

/-- The operator of the looser level that a token spells. -/
def additive? (token : Token) : Option Operator :=
  (Operator.ofToken? token).filter Operator.isAdditive

/-- The operator of the tighter level that a token spells. -/
def multiplicative? (token : Token) : Option Operator :=
  (Operator.ofToken? token).filter Operator.isMultiplicative

/-- A literal. -/
def literal : List Token → Outcome
  | [] => .absent
  | token :: rest => if isLiteral token then .found (.value token) rest else .absent

/-- All accessors that follow an object, each one wrapping what is before it and
costing one level. -/
def accessors : (levels : Nat) → (object : Expr) → List Token → Outcome
  | _, object, [] => .found object []
  | 0, object, point :: rest =>
    if point.isSymbol "." then .failed (.grammatical .tooDeep (some point)) rest
    else .found object (point :: rest)
  | levels + 1, object, point :: rest =>
    if point.isSymbol "." then
      match rest with
      | [] => .failed (.grammatical .missingKey (some point)) []
      | token :: rest =>
        match key? token with
        | some key => accessors levels (.access point object key) rest
        | none => .failed (.grammatical .invalidKey (some token)) rest
    else .found object (point :: rest)

/-- A reference with its accessors. -/
def reference (levels : Nat) : List Token → Outcome
  | [] => .absent
  | token :: rest =>
    if token.kind = .reference then accessors levels (.reference token) rest else .absent

/-- A literal or a reference. -/
def factor (levels : Nat) (tokens : List Token) : Outcome :=
  match literal tokens with
  | .absent => reference levels tokens
  | outcome => outcome

/-- An operand, and behind an operator of one level `more`, which is then the
right operand; `missing` is the error if it is absent. -/
def chain (operand more : List Token → Outcome) (operator? : Token → Option Operator)
    (missing : GrammarCause) (tokens : List Token) : Outcome :=
  match operand tokens with
  | .found left (token :: rest) =>
    match operator? token with
    | some operator =>
      match more rest with
      | .absent => .failed (.grammatical missing (some token)) rest
      | outcome => outcome.map (.operation operator token left)
    | none => .found left (token :: rest)
  | outcome => outcome

/-- A rule that must not be absent: it fails at the token that does not start it. -/
def demand (rule : List Token → Outcome) (missing : GrammarCause) (tokens : List Token) :
    Outcome :=
  match rule tokens with
  | .absent => .failed (.grammatical missing tokens.head?) tokens
  | outcome => outcome

/-- A factor, and behind a multiplicative operator another term. -/
def term : (levels : Nat) → List Token → Outcome
  | 0, tokens => tooDeep tokens
  | levels + 1, tokens =>
    chain (factor levels) (term levels) multiplicative? .isolatedOperator tokens

/-- A term, and behind an additive operator another expression; a leading `-`
negates all of it. The rule is absent only if there are no tokens. -/
def expression : (levels : Nat) → List Token → Outcome
  | 0, tokens => tooDeep tokens
  | _ + 1, [] => .absent
  | levels + 1, first :: rest =>
    let sum :=
      chain (demand (term levels) .missingTerm) (expression levels) additive? .missingExpression
    if first.isSymbol "-" then
      if rest.isEmpty then .failed (.grammatical .loneNegation (some first)) []
      else (sum rest).map (.negate first)
    else sum (first :: rest)

end Grammar

end DataFormula
