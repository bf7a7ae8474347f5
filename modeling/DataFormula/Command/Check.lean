import DataFormula.Cursor

/-!
# Checking a text

A text is checked by parsing the formula at its start. What is left behind the
formula is no error, but it is reported.
-/

namespace DataFormula.Command

/-- Why a command has no answer. -/
inductive Failure where
  /-- The source is no formula. -/
  | syntaxError (error : SyntaxError)
  /-- The source cannot be read. -/
  | unreadable (reason : String)
  /-- There is no source. -/
  | noSource
deriving DecidableEq

/-- A failure on one line. -/
def Failure.text : Failure → String
  | syntaxError error => error.text
  | unreadable reason => "IO error: " ++ reason
  | noSource => "No source provided. Pass an expression or pipe it to stdin."

/-- What checking a text comes to. -/
inductive Verdict where
  /-- The whole text is one formula. -/
  | valid (expr : Expr)
  /-- Behind a formula there are more tokens. -/
  | trailing (expr : Expr) (tokens : List Token)
deriving DecidableEq

namespace Verdict

/-- The formula of a verdict. -/
def expr : Verdict → Expr
  | valid expr => expr
  | trailing expr _ => expr

/-- The tokens behind the formula. -/
def rest : Verdict → List Token
  | valid _ => []
  | trailing _ tokens => tokens

/-- The verdict on a formula and what is left behind it. -/
def of (expr : Expr) (rest : List Token) : Verdict :=
  if rest.isEmpty then valid expr else trailing expr rest

/-- A verdict on one line. -/
def text : Verdict → String
  | valid _ => "Syntax is valid"
  | trailing _ tokens =>
    "Syntax is valid (" ++ tokens.length.repr ++ " trailing tokens ignored)"

@[simp]
theorem expr_of (expr : Expr) (rest : List Token) : (of expr rest).expr = expr := by
  unfold of
  split <;> rfl

@[simp]
theorem rest_of (expr : Expr) (rest : List Token) : (of expr rest).rest = rest := by
  cases rest <;> rfl

end Verdict

/-- The verdict on a source, which may be missing. -/
def check (source : Option String) : Except Failure Verdict :=
  match source with
  | none => .error .noSource
  | some source =>
    match Cursor.ofSource source with
    | .error error => .error (.syntaxError error)
    | .ok cursor =>
      match cursor.parse with
      | (.error error, _) => .error (.syntaxError error)
      | (.ok expr, after) => .ok (.of expr after.remaining)

end DataFormula.Command
