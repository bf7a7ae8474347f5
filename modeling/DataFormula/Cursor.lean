import DataFormula.Grammar
import DataFormula.Lexer

/-!
# Cursors

A cursor is a place in a list of tokens. It moves forward and back one token at a
time, or to a given place, and parsing a formula moves it behind the formula. The
list itself never changes.
-/

namespace DataFormula

/-- A place in a list of tokens. -/
structure Cursor where
  /-- The tokens. -/
  tokens : List Token
  /-- The number of tokens before the cursor. -/
  position : Nat
deriving DecidableEq

namespace Cursor

/-- A cursor before the first token. -/
def ofTokens (tokens : List Token) : Cursor := ⟨tokens, 0⟩

/-- The tokens behind the cursor. -/
def remaining (cursor : Cursor) : List Token := cursor.tokens.drop cursor.position

/-- Whether there is a token behind the cursor. -/
def hasNext (cursor : Cursor) : Bool := cursor.position < cursor.tokens.length

/-- The token behind the cursor. -/
def peek? (cursor : Cursor) : Option Token := cursor.tokens[cursor.position]?

/-- The token before the cursor. -/
def last? (cursor : Cursor) : Option Token :=
  if cursor.position = 0 then none else cursor.tokens[cursor.position - 1]?

/-- The token behind the cursor, with the cursor moved over it. -/
def next (cursor : Cursor) : Option Token × Cursor :=
  match cursor.peek? with
  | some token => (some token, { cursor with position := cursor.position + 1 })
  | none => (none, cursor)

/-- Like `next`, but the end of the tokens is an error that blames the last one. -/
def requireNext (cause : GrammarCause) (cursor : Cursor) : Except SyntaxError Token × Cursor :=
  match cursor.next with
  | (some token, after) => (.ok token, after)
  | (none, after) => (.error (.grammatical cause after.last?), after)

/-- The cursor moved back over one token, if there is one. -/
def returnToken (cursor : Cursor) : Cursor := { cursor with position := cursor.position - 1 }

/-- The cursor moved to a place, or to the end if the place is behind it. -/
def setPosition (place : Nat) (cursor : Cursor) : Cursor :=
  { cursor with position := min place cursor.tokens.length }

/-- The cursor moved forward until only the last of its tokens are left. -/
def advanceTo (cursor : Cursor) (rest : List Token) : Cursor :=
  { cursor with position := cursor.position + (cursor.remaining.length - rest.length) }

/-- Applies a rule at the cursor. A rule that is absent does not move it. -/
def run (rule : List Token → Outcome) (cursor : Cursor) :
    Except SyntaxError (Option Expr) × Cursor :=
  match rule cursor.remaining with
  | .absent => (.ok none, cursor)
  | .found expr rest => (.ok (some expr), cursor.advanceTo rest)
  | .failed error rest => (.error error, cursor.advanceTo rest)

/-- Parses the formula that starts at the cursor and moves behind it. -/
def parse (cursor : Cursor) : Except SyntaxError Expr × Cursor :=
  match cursor.run (Grammar.expression Grammar.maxDepth) with
  | (.ok (some expr), after) => (.ok expr, after)
  | (.ok none, after) => (.error (.grammatical .emptyInput none), after)
  | (.error error, after) => (.error error, after)

/-- Parses one formula after the other, `count` times, whatever each time comes to. -/
def parseMany : (count : Nat) → Cursor → List (Except SyntaxError Expr) × Cursor
  | 0, cursor => ([], cursor)
  | count + 1, cursor =>
    let (result, after) := cursor.parse
    let (results, last) := parseMany count after
    (result :: results, last)

end Cursor

/-- A cursor before the first token of a text. -/
def Cursor.ofSource (source : String) : Except SyntaxError Cursor :=
  (tokenize source).map Cursor.ofTokens

/-- The formula at the start of a text. -/
def Expr.ofSource (source : String) : Except SyntaxError Expr := do
  let cursor ← Cursor.ofSource source
  cursor.parse.1

end DataFormula
