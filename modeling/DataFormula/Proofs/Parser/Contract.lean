import DataFormula.Proofs.Cursor.Operations

/-!
# What rules owe to their callers

A rule that is absent is no error: its caller goes on at the same place with something else.
So each rule of a parser keeps a contract, whatever it comes to (`Parsing.Rule.Contract`).
One token decides whether the rule is absent, and then nothing tells that it was tried. An
expression that is found consists of the tokens that the cursor has passed. An error may
leave the cursor further on, but not before its start. The levels that were entered are left
again in any case.

On lists of tokens this is what the grammar says (`Parsing.Rule.Answers`). A parser inside of
any number of levels comes to that, if there is one left (`Parsing.Rule.attempt_contract`).
-/

namespace DataFormula

open Grammar (maxDepth)

/-- The tokens that are literals: numbers, strings and two words. -/
def Token.IsLiteral (token : Token) : Prop :=
  token.kind = .integer ∨ token.kind = .float ∨ token.kind = .string ∨
    token.kind = .identifier ∧ (token.data = "true" ∨ token.data = "false")

namespace Grammar

variable {token : Token}

theorem isLiteral_iff : isLiteral token = true ↔ token.IsLiteral := by
  cases kind : token.kind <;> simp [isLiteral, Token.isBoolean, Token.IsLiteral, kind]

theorem startsFactor_iff :
    startsFactor token = true ↔ token.IsLiteral ∨ token.kind = .reference := by
  rw [startsFactor, Bool.or_eq_true, isLiteral_iff, beq_iff_eq]

end Grammar

/-- A parser stands at a place of its tokens, and its count of levels is within its bounds and
has always been. -/
structure Parser.Sound (parser : Parser) : Prop where
  inside : parser.cursor.position ≤ parser.cursor.tokens.length
  depth : 0 ≤ parser.depth ∧ parser.depth ≤ maxDepth
  bounded : ∀ value ∈ parser.depths, 0 ≤ value ∧ value ≤ maxDepth

namespace Parsing

section Places

variable {tokens here : List Token} {depth : Int} {parser : Parser}

theorem stands_of_sound (sound : parser.Sound) :
    Stands parser.cursor.tokens parser.cursor.remaining parser.depth parser where
  cursor := Cursor.Among.eq_before ⟨rfl, sound.inside⟩
  inside := List.drop_suffix _ _
  depth := rfl
  bounded := sound.bounded

theorem Stands.sound (stands : Stands tokens here depth parser)
    (within : 0 ≤ depth ∧ depth ≤ maxDepth) : parser.Sound where
  inside := by
    rw [stands.cursor]
    exact Nat.sub_le _ _
  depth := by rwa [stands.depth]
  bounded := stands.bounded

end Places

/-- The rules that a parser tries. -/
inductive Rule where
  /-- A literal. -/
  | literal
  /-- A reference with its accessors. -/
  | reference
  /-- A literal or a reference. -/
  | factor
  /-- A factor, and behind a multiplicative operator another term. -/
  | term
  /-- A sum, which a leading `-` negates. -/
  | expression

namespace Rule

/-- A rule as it is tried: terms and expressions are read one level further down. -/
def attempt (fuel : Nat) : Rule → Parsing (Option Expr)
  | literal => Parsing.literal
  | reference => Parsing.reference fuel
  | factor => Parsing.factor fuel
  | term => nested (Parsing.term fuel)
  | expression => nested (Parsing.expression fuel)

/-- Whether a rule may start with a token. -/
def Starts (token : Token) : Rule → Prop
  | literal => token.IsLiteral
  | reference => token.kind = .reference
  | factor | term => token.IsLiteral ∨ token.kind = .reference
  | expression => True

/-- What the grammar says where a rule is tried. -/
def outcome (levels : Nat) : Rule → List Token → Outcome
  | literal => Grammar.literal
  | reference => Grammar.reference levels
  | factor => Grammar.factor levels
  | term => Grammar.term levels
  | expression => Grammar.expression levels

variable {rule : Rule} {tokens here rest : List Token} {levels fuel : Nat} {depth : Int}
  {expr : Expr} {error : SyntaxError} {result : Except SyntaxError (Option Expr)}
  {parser after : Parser}

/-! ## On lists of tokens -/

theorem outcome_eq_absent_iff :
    rule.outcome (levels + 1) here = .absent ↔ ∀ first ∈ here.head?, ¬ rule.Starts first := by
  cases rule with
  | literal =>
      rw [outcome, Grammar.literal_eq_absent_iff]
      simp only [Starts, ← Grammar.isLiteral_iff, Bool.not_eq_true]
  | reference => exact Grammar.reference_eq_absent_iff
  | factor =>
      rw [outcome, Grammar.factor_eq_absent_iff]
      simp only [Starts, ← Grammar.startsFactor_iff, Bool.not_eq_true]
  | term =>
      rw [outcome, Grammar.term_succ_eq_absent_iff]
      simp only [Starts, ← Grammar.startsFactor_iff, Bool.not_eq_true]
  | expression =>
      rw [outcome, Grammar.expression_succ_eq_absent_iff]
      cases here <;> simp [Starts]

theorem exists_starts (present : rule.outcome (levels + 1) here ≠ .absent) :
    ∃ first ∈ here.head?, rule.Starts first := by
  by_contra nothing
  apply present
  rw [outcome_eq_absent_iff]
  intro first member starts
  exact nothing ⟨first, member, starts⟩

theorem tokens_of_found (found : rule.outcome levels here = .found expr rest) :
    here = expr.tokens ++ rest := by
  cases rule with
  | literal =>
      obtain ⟨token, -, rfl, rfl⟩ := Grammar.literal_eq_found_iff.mp found
      rfl
  | reference =>
      obtain ⟨-, -, split, -⟩ := Grammar.reference_eq_found_iff.mp found
      exact split
  | factor =>
      obtain ⟨-, -, split, -⟩ := Grammar.factor_eq_found_iff.mp found
      exact split
  | term =>
      obtain ⟨-, -, split, -⟩ := Grammar.term_eq_found_iff.mp found
      exact split
  | expression =>
      obtain ⟨-, -, split, -⟩ := Grammar.expression_eq_found_iff.mp found
      exact split

/-- A rule that fails has read some of the tokens. What stands before them does not matter,
so that may be an operator. -/
theorem suffix_of_failed (failed : rule.outcome (levels + 1) here = .failed error rest) :
    rest <:+ here := by
  obtain ⟨before, due⟩ := Grammar.exists_operandDue here
  have fails : Grammar.FailsAt before here error rest := by
    cases rule with
    | literal => exact absurd failed (Grammar.literal_ne_failed here error rest)
    | reference => exact Grammar.reference_failsAt failed
    | factor => exact Grammar.factor_failsAt failed
    | term => exact Grammar.term_failsAt failed fun _ => due
    | expression => exact Grammar.expression_failsAt failed fun _ _ => due
  exact fails.suffix

/-- What a rule may answer about the tokens before it, and which of them it may leave. -/
inductive Answers (rule : Rule) (here : List Token) :
    Except SyntaxError (Option Expr) → List Token → Prop where
  | absent (other : ∀ first ∈ here.head?, ¬ rule.Starts first) : Answers rule here (.ok none) here
  | found {expr : Expr} {rest : List Token}
      (starts : ∃ first ∈ here.head?, rule.Starts first)
      (split : here = expr.tokens ++ rest) : Answers rule here (.ok (some expr)) rest
  | failed {error : SyntaxError} {rest : List Token}
      (starts : ∃ first ∈ here.head?, rule.Starts first)
      (behind : rest <:+ here) : Answers rule here (.error error) rest

/-! ## On parsers -/

theorem attempt_meets (positive : 0 ≤ depth) (balance : depth + levels = maxDepth)
    (enough : 3 * levels < fuel) :
    Meets tokens here depth (rule.attempt fuel) (rule.outcome levels here) := by
  cases rule with
  | literal => exact literal_meets
  | reference => exact reference_meets balance (by omega)
  | factor => exact factor_meets balance (by omega)
  | term => exact nested_term_meets positive balance (by omega)
  | expression => exact nested_expression_meets positive balance enough

/-- With a level left, a parser comes to one of the answers, and back to its depth. -/
theorem attempt_leadsTo (rule : Rule) (within : 0 ≤ depth ∧ depth < maxDepth)
    (enough : 3 * maxDepth < fuel) :
    ∃ result rest, rule.Answers here result rest ∧
      LeadsTo (Stands tokens here depth) (rule.attempt fuel) result (Stands tokens rest depth) := by
  obtain ⟨levels, balance⟩ : ∃ levels : Nat, depth + (levels + 1 : Nat) = maxDepth :=
    ⟨(maxDepth - depth - 1).toNat, by omega⟩
  have meets : Meets tokens here depth (rule.attempt fuel) (rule.outcome (levels + 1) here) :=
    attempt_meets within.1 balance (by omega)
  cases said : rule.outcome (levels + 1) here with
  | absent =>
      rw [said] at meets
      exact ⟨_, _, .absent (outcome_eq_absent_iff.mp said), meets⟩
  | found expr rest =>
      have present : rule.outcome (levels + 1) here ≠ .absent := by simp [said]
      rw [said] at meets
      exact ⟨_, _, .found (exists_starts present) (tokens_of_found said), meets⟩
  | failed error rest =>
      have present : rule.outcome (levels + 1) here ≠ .absent := by simp [said]
      rw [said] at meets
      exact ⟨_, _, .failed (exists_starts present) (suffix_of_failed said), meets⟩

/-- What a caller may rely on about a parser before and behind a rule. -/
structure Contract (rule : Rule) (parser : Parser) (result : Except SyntaxError (Option Expr))
    (after : Parser) : Prop where
  unchanged : after.cursor.tokens = parser.cursor.tokens
  /-- All levels that were entered are left again. -/
  restored : after.depth = parser.depth
  /-- The rule is absent exactly if the next token is missing or does not start it. -/
  absent_iff : result = .ok none ↔ ∀ first ∈ parser.cursor.peek?, ¬ rule.Starts first
  unmoved : result = .ok none → after.cursor = parser.cursor
  /-- What is found consists of the tokens that are read. -/
  read : ∀ expr, result = .ok (some expr) →
    parser.cursor.remaining = expr.tokens ++ after.cursor.remaining
  forward : ∀ expr, result = .ok (some expr) →
    after.cursor.position = parser.cursor.position + expr.tokens.length
  failed : ∀ error, result = .error error → parser.cursor.position ≤ after.cursor.position

theorem Answers.contract (answers : rule.Answers here result rest)
    (before : Stands tokens here depth parser) (behind : Stands tokens rest depth after) :
    rule.Contract parser result after where
  unchanged := by rw [before.cursor, behind.cursor, Cursor.before, Cursor.before]
  restored := behind.depth.trans before.depth.symm
  absent_iff := by
    rw [before.cursor, Cursor.peek?_before before.inside]
    cases answers with
    | absent other => exact iff_of_true rfl other
    | found starts split =>
        obtain ⟨first, member, starts⟩ := starts
        simp only [Except.ok.injEq, reduceCtorEq, false_iff]
        exact fun other => other first member starts
    | failed starts behind =>
        obtain ⟨first, member, starts⟩ := starts
        simp only [reduceCtorEq, false_iff]
        exact fun other => other first member starts
  unmoved := by
    rintro rfl
    cases answers
    rw [before.cursor, behind.cursor]
  read := by
    rintro expr rfl
    cases answers with
    | found starts split => rw [before.unread, behind.unread, split]
  forward := by
    rintro expr rfl
    have lengths := before.position_add_length.trans behind.position_add_length.symm
    cases answers with
    | found starts split =>
        rw [split, List.length_append] at lengths
        omega
  failed := by
    rintro error rfl
    have lengths := before.position_add_length.trans behind.position_add_length.symm
    cases answers with
    | failed starts suffix =>
        have shorter := suffix.length_le
        omega

/-- **Rules keep their contract.** From any place and inside of any number of levels, as long as
there is one left, a rule comes to an end, and a caller may rely on how it does. -/
theorem attempt_contract (rule : Rule) (sound : parser.Sound) (below : parser.depth < maxDepth)
    (enough : 3 * maxDepth < fuel) :
    ∃ result after, (rule.attempt fuel).run.run parser = some (result, after) ∧
      rule.Contract parser result after ∧ after.Sound := by
  have stands := stands_of_sound sound
  obtain ⟨result, rest, answers, leads⟩ := rule.attempt_leadsTo ⟨sound.depth.1, below⟩ enough
  obtain ⟨after, ran, behind⟩ := leads parser stands
  exact ⟨result, after, ran, answers.contract stands behind, behind.sound sound.depth⟩

/-- Two levels are left for a sum of two numbers behind a `*`, one too few. The error is seen
before the second number, and leaves the parser there, at the depth it had. -/
theorem attempt_contract_of_deep_sum :
    let one : Token := ⟨.integer, "1", ⟨1, 1, 2⟩⟩
    let two : Token := ⟨.integer, "2", ⟨3, 1, 4⟩⟩
    let tokens : List Token := [⟨.symbol, "*", .start⟩, one, ⟨.symbol, "+", ⟨2, 1, 3⟩⟩, two]
    let parser : Parser := ⟨⟨tokens, 1⟩, 126, [126]⟩
    (parser.Sound ∧ parser.depth < maxDepth ∧ 3 * maxDepth < 385) ∧
      ∃ after, (expression.attempt 385).run.run parser =
          some (.error (.grammatical .tooDeep (some two)), after) ∧
        after.cursor.position = 3 ∧ after.depth = 126 ∧
        expression.Contract parser (.error (.grammatical .tooDeep (some two))) after ∧
        after.Sound := by
  intro one two tokens parser
  have sound : parser.Sound := ⟨by decide, by decide, by decide⟩
  have below : parser.depth < maxDepth := by decide
  have enough : 3 * maxDepth < 385 := by decide
  obtain ⟨result, after, ran, contract, kept⟩ := attempt_contract expression sound below enough
  have computed : (expression.attempt 385).run.run parser =
      some (.error (.grammatical .tooDeep (some two)),
        ⟨⟨tokens, 3⟩, 126, [126, 127, 128, 127, 128, 127, 126]⟩) := by
    decide +kernel
  rw [computed] at ran
  cases ran
  exact ⟨⟨sound, below, enough⟩, _, computed, rfl, rfl, contract, kept⟩

end Rule

end Parsing

end DataFormula
