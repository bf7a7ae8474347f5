import DataFormula.Command.Check
import DataFormula.Proofs.Grammar.Exactness
import DataFormula.Proofs.Grammar.FlatNesting
import DataFormula.Proofs.Grammar.Sentence
import DataFormula.Proofs.Lexer.Tiling

/-!
# Verdicts

Checking a text decides whether its tokens are a sentence of the written grammar that
nests nowhere too deep. A verdict and the parser tell of the same formula, or of the
same error, and the formula with what is left behind it has all tokens of the text, in
the order in which they stand there.
-/

namespace DataFormula

open Grammar

/-- Behind the formula at the start of a list stands what the grammar leaves. -/
theorem Cursor.parse_ofTokens_of_found {tokens rest : List Token} {expr : Expr}
    (found : expression maxDepth tokens = .found expr rest) :
    ∃ after, (ofTokens tokens).parse = (.ok expr, after) ∧ after.remaining = rest := by
  have split := (expression_eq_found_iff.mp found).2.2.1
  refine ⟨(ofTokens tokens).advanceTo rest, parse_of_found found, ?_⟩
  have moved : (ofTokens tokens).advanceTo rest = ⟨tokens, 0 + expr.tokens.length⟩ :=
    advanceTo_eq split
  rw [moved, remaining, split, Nat.zero_add, List.drop_left]

namespace Command

variable {source : String} {tokens rest : List Token} {expr : Expr} {error : SyntaxError}

/-- Checking and parsing fail on a text without tokens. -/
theorem check_of_lexical (failed : tokenize source = .error error) :
    check (some source) = .error (.syntaxError error) ∧ Expr.ofSource source = .error error := by
  have cursor : Cursor.ofSource source = .error error := by
    rw [Cursor.ofSource, failed]
    rfl
  refine ⟨?_, ?_⟩
  · simp only [check, cursor]
  · simp only [Expr.ofSource, cursor, bind, Except.bind]

/-- Checking and parsing fail where no formula starts the tokens of a text. -/
theorem check_of_failed {after : Cursor} (given : tokenize source = .ok tokens)
    (failed : (Cursor.ofTokens tokens).parse = (.error error, after)) :
    check (some source) = .error (.syntaxError error) ∧ Expr.ofSource source = .error error := by
  have cursor : Cursor.ofSource source = .ok (.ofTokens tokens) := by
    rw [Cursor.ofSource, given]
    rfl
  refine ⟨?_, ?_⟩
  · simp only [check, cursor, failed]
  · simp only [Expr.ofSource, cursor, bind, Except.bind, failed]

/-- Checking and parsing tell of the formula that starts the tokens of a text. -/
theorem check_of_found (given : tokenize source = .ok tokens)
    (found : expression maxDepth tokens = .found expr rest) :
    check (some source) = .ok (.of expr rest) ∧ Expr.ofSource source = .ok expr := by
  have cursor : Cursor.ofSource source = .ok (.ofTokens tokens) := by
    rw [Cursor.ofSource, given]
    rfl
  obtain ⟨after, parsed, left⟩ := Cursor.parse_ofTokens_of_found found
  refine ⟨?_, ?_⟩
  · simp only [check, cursor, parsed, left]
  · simp only [Expr.ofSource, cursor, bind, Except.bind, parsed]

/-- A text has an error, or tokens that a formula starts. -/
theorem check_cases (source : String) :
    (∃ error, check (some source) = .error (.syntaxError error) ∧
      Expr.ofSource source = .error error) ∨
    ∃ tokens expr rest, tokenize source = .ok tokens ∧
      expression maxDepth tokens = .found expr rest := by
  cases given : tokenize source with
  | error error => exact .inl ⟨error, check_of_lexical given⟩
  | ok tokens =>
      cases parsed : (Cursor.ofTokens tokens).parse with
      | mk result after =>
          cases result with
          | error error => exact .inl ⟨error, check_of_failed given parsed⟩
          | ok expr =>
              obtain ⟨rest, found, -⟩ := Cursor.parse_eq_ok_iff_found.mp parsed
              exact .inr ⟨tokens, expr, rest, rfl, found⟩

/-- A verdict holds what parsing finds. -/
theorem exists_found_of_check {verdict : Verdict} (checked : check (some source) = .ok verdict) :
    tokenize source = .ok (verdict.expr.tokens ++ verdict.rest) ∧
      expression maxDepth (verdict.expr.tokens ++ verdict.rest) =
        .found verdict.expr verdict.rest ∧
      verdict = .of verdict.expr verdict.rest := by
  rcases check_cases source with ⟨error, failed, -⟩ | ⟨tokens, expr, rest, given, found⟩
  · rw [failed] at checked
    cases checked
  · rw [(check_of_found given found).1] at checked
    cases checked
    have split := (expression_eq_found_iff.mp found).2.2.1
    rw [Verdict.expr_of, Verdict.rest_of, ← split]
    exact ⟨given, found, rfl⟩

/-- The whole of a list is a formula exactly if it is a sentence that nests nowhere too
deep. -/
theorem exists_found_nil_iff :
    (∃ expr, expression maxDepth tokens = .found expr []) ↔
      Derives (.rule .expression) tokens ∧ WithinLevels maxDepth tokens := by
  rw [derives_expression_iff]
  refine ⟨?_, ?_⟩
  · intro found
    obtain ⟨expr, found⟩ := found
    obtain ⟨formula, nests, split, -⟩ := expression_eq_found_iff.mp found
    rw [List.append_nil] at split
    subst split
    exact ⟨⟨expr, formula, rfl⟩, formula.withinLevels_iff.mpr nests⟩
  · intro sentence
    obtain ⟨⟨expr, formula, rfl⟩, within⟩ := sentence
    have nests := formula.withinLevels_iff.mp within
    exact ⟨expr, expression_eq_found_iff.mpr
      ⟨formula, nests, (List.append_nil _).symm, nofun, nofun⟩⟩

/-- The tokens of a text start one behind the other. -/
theorem offsets_increasing (given : tokenize source = .ok tokens) :
    tokens.Pairwise (·.position.offset < ·.position.offset) := by
  rw [tokenize, Lexer.ofString, ← Position.behind_nil] at given
  exact (Lexer.tokens_eq_ok_iff.mp given).offsets.2

/-- Tokens are left behind a formula exactly if the verdict says so. -/
theorem Verdict.rest_of_ne_nil_iff :
    (of expr rest).rest ≠ [] ↔ ∃ other tokens, of expr rest = .trailing other tokens := by
  rw [rest_of]
  cases rest with
  | nil =>
      refine ⟨fun inhabited => absurd rfl inhabited, fun trailing => ?_⟩
      obtain ⟨_, _, same⟩ := trailing
      cases same
  | cons token rest => exact ⟨fun _ => ⟨expr, token :: rest, rfl⟩, fun _ => List.cons_ne_nil _ _⟩

/-- A text is valid exactly if its tokens are a sentence that nests nowhere too deep. -/
theorem check_eq_valid_iff :
    (∃ expr, check (some source) = .ok (.valid expr)) ↔
      ∃ tokens, tokenize source = .ok tokens ∧ Derives (.rule .expression) tokens ∧
        WithinLevels maxDepth tokens := by
  refine ⟨?_, ?_⟩
  · intro valid
    obtain ⟨expr, checked⟩ := valid
    obtain ⟨given, found, -⟩ := exists_found_of_check checked
    exact ⟨_, given, exists_found_nil_iff.mp ⟨expr, found⟩⟩
  · intro sentence
    obtain ⟨tokens, given, derives, within⟩ := sentence
    obtain ⟨expr, found⟩ := exists_found_nil_iff.mpr ⟨derives, within⟩
    exact ⟨expr, (check_of_found given found).1⟩

/-- A check fails exactly where the parser does, with its error. -/
theorem check_eq_error_iff {failure : Failure} :
    check (some source) = .error failure ↔
      ∃ error, failure = .syntaxError error ∧ Expr.ofSource source = .error error := by
  rcases check_cases source with ⟨error, failed, parsed⟩ | ⟨tokens, expr, rest, given, found⟩
  · rw [failed, parsed]
    refine ⟨?_, ?_⟩
    · intro same
      cases same
      exact ⟨error, rfl, rfl⟩
    · intro same
      obtain ⟨other, rfl, same⟩ := same
      cases same
      rfl
  · obtain ⟨checked, parsed⟩ := check_of_found given found
    rw [checked, parsed]
    refine ⟨nofun, fun same => ?_⟩
    obtain ⟨other, -, same⟩ := same
    cases same

/-- **Checking decides the written grammar.** -/
theorem check_decides_grammar (source : String) :
    ((∃ expr, check (some source) = .ok (.valid expr)) ↔
      ∃ tokens, tokenize source = .ok tokens ∧ Derives (.rule .expression) tokens ∧
        WithinLevels maxDepth tokens) ∧
    (∀ verdict, check (some source) = .ok verdict →
      Expr.ofSource source = .ok verdict.expr ∧
      tokenize source = .ok (verdict.expr.tokens ++ verdict.rest) ∧
      (verdict.rest ≠ [] ↔ ∃ expr tokens, verdict = .trailing expr tokens) ∧
      verdict.expr.tokens.Pairwise (·.position.offset < ·.position.offset)) ∧
    ∀ failure, check (some source) = .error failure ↔
      ∃ error, failure = .syntaxError error ∧ Expr.ofSource source = .error error := by
  refine ⟨check_eq_valid_iff, fun verdict checked => ?_, fun failure => check_eq_error_iff⟩
  obtain ⟨given, found, whole⟩ := exists_found_of_check checked
  refine ⟨(check_of_found given found).2, given, ?_,
    (List.pairwise_append.mp (offsets_increasing given)).1⟩
  rw [whole]
  exact Verdict.rest_of_ne_nil_iff

end Command

end DataFormula
