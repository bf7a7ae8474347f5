import DataFormula.Cursor

/-!
# Parsers

A parser walks over tokens with a cursor. Where a rule of the grammar is told how many
levels of nesting are left, a parser counts the levels it is inside of: one up before the
rule for an operand (`Parsing.nested`) and one down behind it, whatever the rule has come
to. A rule that does not match puts back the token it has looked at. Operands of a sum, and
the accessors of a reference, are read in a loop.

Rules call each other and loops go on as long as they have fuel. A parser remembers all
values of its count, so that it can be told how far that went.
-/

namespace DataFormula

/-- A cursor with a count of the levels around it. -/
structure Parser where
  /-- Where the parser stands. -/
  cursor : Cursor
  /-- The number of levels that the parser is inside of. -/
  depth : Int
  /-- Every value that the count has had, the last one first. -/
  depths : List Int
deriving DecidableEq

/-- A parser that starts at a cursor, inside of no level. -/
def Parser.ofCursor (cursor : Cursor) : Parser := ⟨cursor, 0, [0]⟩

/-- What a parser does: it comes to something or fails, and moves in either case, unless it
runs out of fuel. -/
abbrev Parsing := ExceptT SyntaxError (StateT Parser Option)

namespace Parsing

variable {α : Type}

/-- Something done with the cursor. -/
def withCursor (act : Cursor → α × Cursor) : Parsing α := do
  let parser ← get
  set { parser with cursor := (act parser.cursor).2 }
  return (act parser.cursor).1

/-- The token behind the cursor, which is moved over it. -/
def next : Parsing (Option Token) := withCursor Cursor.next

/-- The token behind the cursor. -/
def peek : Parsing (Option Token) := withCursor fun cursor => (cursor.peek?, cursor)

/-- Whether there is a token behind the cursor. -/
def hasNext : Parsing Bool := withCursor fun cursor => (cursor.hasNext, cursor)

/-- Moves the cursor back over one token. -/
def returnToken : Parsing Unit := withCursor fun cursor => ((), cursor.returnToken)

/-- The number of tokens before the cursor. -/
def position : Parsing Nat := withCursor fun cursor => (cursor.position, cursor)

/-- Moves the cursor to a place. -/
def setPosition (place : Nat) : Parsing Unit :=
  withCursor fun cursor => ((), cursor.setPosition place)

/-- The token behind the cursor, which must be there. -/
def requireNext (cause : GrammarCause) : Parsing Token := do
  match ← withCursor (Cursor.requireNext cause) with
  | .ok token => return token
  | .error error => throw error

/-- The number of levels around the parser. -/
def depth : Parsing Int := return (← get).depth

/-- Counts levels up or down. -/
def count (step : Int) : Parsing Unit := modify fun parser =>
  { parser with depth := parser.depth + step, depths := (parser.depth + step) :: parser.depths }

/-- A failure that blames the token behind the cursor. -/
def failHere (cause : GrammarCause) : Parsing α := do
  throw (.grammatical cause (← peek))

/-- What a rule finds, or what is done if it is absent. -/
def require (rule : Parsing (Option α)) (otherwise : Parsing α) : Parsing α := do
  match ← rule with
  | some answer => return answer
  | none => otherwise

/-- A rule without fuel. -/
def exhausted : Parsing α := (fun _ => none : StateT Parser Option (Except SyntaxError α))

/-- Applies a rule one level further down, if there is one, and comes back from there
whether the rule fails or not. -/
def nested (rule : Parsing α) : Parsing α := do
  if Grammar.maxDepth ≤ (← depth) then failHere .tooDeep
  else
    count 1
    -- The rule is run as a whole, so that a failure does not skip the way back.
    (do let result ← rule.run
        let _ ← (count (-1)).run
        return result : StateT Parser Option (Except SyntaxError α))

/-- A literal. -/
def literal : Parsing (Option Expr) := do
  let some token ← next | return none
  if Grammar.isLiteral token then return some (.value token)
  else
    returnToken
    return none

/-- All accessors that follow an object, if it has a number of them already. -/
def accessors : (fuel length : Nat) → (object : Expr) → Parsing Expr
  | 0, _, _ => exhausted
  | fuel + 1, length, object => do
    let some point ← next | return object
    if point.isSymbol "." then
      -- One accessor too many is refused before its key is looked at.
      if Grammar.maxDepth < (← depth) + (length + 1 : Nat) then
        throw (.grammatical .tooDeep (some point))
      else
        let token ← requireNext .missingKey
        match Grammar.key? token with
        | some key => accessors fuel (length + 1) (.access point object key)
        | none => throw (.grammatical .invalidKey (some token))
    else
      returnToken
      return object

/-- A reference with its accessors. -/
def reference (fuel : Nat) : Parsing (Option Expr) := do
  let some token ← next | return none
  if token.kind = .reference then return some (← accessors fuel 0 (.reference token))
  else
    returnToken
    return none

/-- A literal or a reference. -/
def factor (fuel : Nat) : Parsing (Option Expr) := do
  match ← literal with
  | some expr => return some expr
  | none => reference fuel

/-- A factor, and behind a multiplicative operator another term. -/
def term : (fuel : Nat) → Parsing (Option Expr)
  | 0 => exhausted
  | fuel + 1 => do
    let some left ← factor fuel | return none
    let place ← position
    match ← next with
    | some token =>
      match Grammar.multiplicative? token with
      | some operator =>
        let right ← require (nested (term fuel))
          (throw (.grammatical .isolatedOperator (some token)))
        return some (.operation operator token left right)
      | none =>
        setPosition place
        return some left
    | none =>
      setPosition place
      return some left

mutual

/-- A sum, which a leading `-` negates. -/
def expression : (fuel : Nat) → Parsing (Option Expr)
  | 0 => exhausted
  | fuel + 1 => do
    let some first ← next | return none
    if first.isSymbol "-" then
      if ← hasNext then return some (.negate first (← sum fuel))
      else throw (.grammatical .loneNegation (some first))
    else
      returnToken
      return some (← sum fuel)

/-- A term, and all that is added to it. -/
def sum : (fuel : Nat) → Parsing Expr
  | 0 => exhausted
  | fuel + 1 => do
    let left ← require (nested (term fuel)) (failHere .missingTerm)
    additions fuel left

/-- As long as an additive operator follows, an expression that is its right operand. -/
def additions : (fuel : Nat) → (left : Expr) → Parsing Expr
  | 0, _ => exhausted
  | fuel + 1, left => do
    let some token ← next | return left
    match Grammar.additive? token with
    | some operator =>
      let right ← require (nested (expression fuel))
        (throw (.grammatical .missingExpression (some token)))
      additions fuel (.operation operator token left right)
    | none =>
      returnToken
      return left

end

/-- The formula that starts at the cursor. -/
def parse (fuel : Nat) : Parsing Expr := do
  if ← hasNext then
    require (nested (expression fuel))
      (failHere (.other "input must start with a valid expression"))
  else throw (.grammatical .emptyInput none)

end Parsing

/-- One use of a parser. -/
structure Parser.Call where
  /-- The parser before it. -/
  before : Parser
  /-- What it comes to. -/
  result : Except SyntaxError Expr
  /-- The parser behind it. -/
  after : Parser

/-- Parses one formula after the other with the same parser, whatever each time comes to. -/
def Parser.calls (fuel : Nat) : (count : Nat) → Parser → Option (List Parser.Call)
  | 0, _ => some []
  | count + 1, parser => do
    let (result, after) ← (Parsing.parse fuel).run.run parser
    let further ← calls fuel count after
    return ⟨parser, result, after⟩ :: further

end DataFormula
