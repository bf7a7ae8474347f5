import DataFormula.Proofs.Command.Stream

/-!
# Operators without a right operand

With an operator on a line of its own below it, no valid text stays valid. The operator
goes on with the last term of the formula (`Grammar.expression_failed_of_last`), where its
right operand is missed. An operand of a sum is missed before its level is, so that the
operator is blamed wherever it stands. An operand of a product is looked for one level
further down, which has to be there first (`Command.dangling_operator_fails`).
-/

namespace DataFormula

namespace Grammar

section Last

variable {remaining levels : Nat} {expr last left right : Expr} {token : Token}
  {operator : Operator} {behind rest : List Token} {error : SyntaxError}

/-! ## The last term -/

theorem IsTerm.factors_getLast? (term : IsTerm expr) :
    expr.factors.getLast? = some expr.lastFactor := by
  induction term with
  | factor factor => rw [factor.factors, factor.lastFactor, List.getLast?_singleton]
  | product _ _ _ ih => rw [Expr.factors, List.getLast?_cons, ih, Expr.lastFactor, Option.getD_some]

theorem terms_of_additive (spelled : additive? token = some operator) :
    (Expr.operation operator token left right).terms = left :: right.terms := by
  rw [Expr.terms, if_pos (additive?_eq_some_iff.mp spelled).2]

theorem terms_ne_nil (expr : Expr) : expr.terms ≠ [] := by
  induction expr with
  | operation operator token left right =>
      rw [Expr.terms]
      split <;> exact List.cons_ne_nil _ _
  | negate _ _ ih => exact ih
  | _ => exact List.cons_ne_nil _ _

/-- The last term of a sum is that of its right operand. -/
theorem getLast?_terms_of_additive (spelled : additive? token = some operator) :
    (Expr.operation operator token left right).terms.getLast? = right.terms.getLast? := by
  rw [terms_of_additive spelled]
  exact List.getLast?_cons_of_ne_nil (terms_ne_nil right)

/-- A formula has a last term, which ends with the last factor. -/
theorem IsFormula.exists_last (formula : IsFormula expr) :
    ∃ last, expr.terms.getLast? = some last ∧ IsTerm last ∧
      last.factors.getLast? = some expr.lastFactor := by
  induction formula with
  | @term expr term => exact ⟨expr, by rw [term.terms]; rfl, term, term.factors_getLast?⟩
  | sum spelled _ _ ih => rwa [getLast?_terms_of_additive spelled]
  | @negatedTerm _ expr _ term =>
      exact ⟨expr, by rw [Expr.terms, term.terms]; rfl, term, term.factors_getLast?⟩
  | negatedSum _ spelled _ _ ih => rwa [Expr.terms, getLast?_terms_of_additive spelled]

/-- Each term takes one level, so the factors of the last one have the remaining levels. -/
theorem termNests_of_last (nests : expr.Nests levels) (found : expr.terms.getLast? = some last) :
    ∃ remaining, levels = remaining + 1 + expr.terms.length ∧ last.TermNests (remaining + 1) := by
  have place : expr.terms[expr.terms.length - 1]? = some last := by
    rw [← List.getLast?_eq_getElem?, found]
  have inhabited : 0 < expr.terms.length := by
    cases terms : expr.terms with
    | nil =>
        rw [terms] at found
        cases found
    | cons => exact Nat.succ_pos _
  have bound : ∀ j factor, last.factors[j]? = some factor →
      expr.terms.length + (j + 1) + factor.accessorCount ≤ levels := by
    intro j factor found
    have := nests _ last place j factor found
    omega
  have first : ∃ factor, last.factors[0]? = some factor := by
    cases last <;> exact ⟨_, rfl⟩
  obtain ⟨factor, found⟩ := first
  have enough := bound 0 factor found
  refine ⟨levels - expr.terms.length - 1, by omega, fun j factor found => ?_⟩
  have := bound j factor found
  omega

/-! ## Behind the last term -/

/-- A term ends before an additive operator. -/
theorem term_found_of_additive (spelled : additive? token = some operator) (term : IsTerm expr)
    (nests : expr.TermNests levels) :
    Grammar.term levels (expr.tokens ++ token :: rest) = .found expr (token :: rest) := by
  apply term_eq_found_iff.mpr
  refine ⟨term, nests, rfl, pathStops_of_operator (additive?_eq_some_iff.mp spelled).1, ?_⟩
  intro next member
  cases member
  exact multiplicative?_eq_none_of_additive? spelled

/-- A sum fails where its right operand does. -/
theorem sum_failed_of_right (spelled : additive? token = some operator) (term : IsTerm left)
    (nests : (Expr.operation operator token left right).Nests (levels + 1))
    (failed : right.Nests levels →
      expression levels (right.tokens ++ behind) = .failed error rest) :
    sum levels ((Expr.operation operator token left right).tokens ++ behind) =
      .failed error rest := by
  obtain ⟨leftNests, rightNests⟩ := (nests_succ_sum_iff spelled).mp nests
  have split : (Expr.operation operator token left right).tokens ++ behind =
      left.tokens ++ token :: (right.tokens ++ behind) := by
    rw [Expr.tokens, List.append_assoc, List.cons_append]
  have found : Grammar.term levels (left.tokens ++ token :: (right.tokens ++ behind)) =
      .found left (token :: (right.tokens ++ behind)) :=
    term_found_of_additive spelled term leftNests
  rw [split]
  apply chain_eq_failed_iff.mpr
  exact .inr ⟨left, token, right.tokens ++ behind, operator, demand_eq_found_iff.mpr found,
    spelled, .inr (failed rightNests)⟩

/-- A sign does not change where the sum behind it fails. -/
theorem expression_failed_of_sign {sign : Token} (signed : sign.isSymbol "-" = true)
    (failed : sum levels (expr.tokens ++ behind) = .failed error rest) :
    expression (levels + 1) ((Expr.negate sign expr).tokens ++ behind) = .failed error rest := by
  apply expression_succ_eq_failed_iff.mpr
  refine .inr (.inl ⟨sign, expr.tokens ++ behind, rfl, signed, ?_, failed⟩)
  exact List.append_ne_nil_of_left_ne_nil expr.tokens_ne_nil _

theorem expression_failed_of_sum (isSum : IsSum expr)
    (failed : sum levels (expr.tokens ++ behind) = .failed error rest) :
    expression (levels + 1) (expr.tokens ++ behind) = .failed error rest := by
  obtain ⟨first, others, tokens, -⟩ := isSum.head
  have unsigned := isSum.isSymbol_head tokens
  apply expression_succ_eq_failed_iff.mpr
  exact .inr (.inr ⟨first, others ++ behind, by rw [tokens, List.cons_append], unsigned, failed⟩)

/-- **A formula fails where its last term does.** If reading on behind the last term fails
on the levels that remain there, so does reading the whole. -/
theorem expression_failed_of_last (formula : IsFormula expr)
    (nests : expr.Nests (remaining + expr.terms.length))
    (found : expr.terms.getLast? = some last)
    (failed : sum remaining (last.tokens ++ behind) = .failed error rest) :
    expression (remaining + expr.terms.length) (expr.tokens ++ behind) = .failed error rest := by
  induction formula with
  | @term expr term =>
      rw [term.terms] at found ⊢
      cases found
      exact expression_failed_of_sum (.inl term) failed
  | @sum operator token left right spelled term formula ih =>
      have isSum : IsSum (.operation operator token left right) :=
        .inr ⟨_, _, _, _, rfl, spelled, term, formula⟩
      rw [getLast?_terms_of_additive spelled] at found
      rw [terms_of_additive spelled] at nests ⊢
      exact expression_failed_of_sum isSum
        (sum_failed_of_right spelled term nests fun nests => ih nests found)
  | @negatedTerm sign expr signed term =>
      rw [Expr.terms, term.terms] at found ⊢
      cases found
      exact expression_failed_of_sign signed failed
  | @negatedSum sign operator token left right signed spelled term _ ih =>
      rw [Expr.terms, getLast?_terms_of_additive spelled] at found
      rw [Expr.terms, terms_of_additive spelled] at nests ⊢
      exact expression_failed_of_sign signed
        (sum_failed_of_right spelled term (nests_negate_iff.mp nests) fun nests => ih nests found)

/-! ## An operator behind the last term -/

/-- An additive operator with nothing behind it misses its right operand. -/
theorem sum_of_dangling_additive (spelled : additive? token = some operator)
    (term : IsTerm expr) (nests : expr.TermNests (levels + 1)) :
    sum (levels + 1) (expr.tokens ++ [token]) =
      .failed (.grammatical .missingExpression (some token)) [] := by
  apply chain_eq_failed_iff.mpr
  refine .inr ⟨expr, token, [], operator, ?_, spelled, .inl ⟨rfl, rfl, rfl⟩⟩
  exact demand_eq_found_iff.mpr (term_found_of_additive spelled term nests)

/-- A factor ends before a multiplicative operator. -/
theorem factor_found_of_multiplicative (spelled : multiplicative? token = some operator)
    (factor : IsFactor expr) (fits : expr.accessorCount ≤ levels) :
    Grammar.factor levels (expr.tokens ++ token :: rest) = .found expr (token :: rest) := by
  apply factor_eq_found_iff.mpr
  exact ⟨factor, fits, rfl, pathStops_of_operator (multiplicative?_eq_some_iff.mp spelled).1⟩

/-- A multiplicative operator with nothing behind it misses its right operand, unless that
has no level to start on. -/
theorem term_of_dangling_multiplicative (spelled : multiplicative? token = some operator)
    (term : IsTerm expr) (nests : expr.TermNests levels) :
    Grammar.term levels (expr.tokens ++ [token]) =
      .failed (if expr.factors.length = levels then .grammatical .tooDeep none
        else .grammatical .isolatedOperator (some token)) [] := by
  induction term generalizing levels with
  | @factor expr factor =>
      cases levels with
      | zero => exact absurd nests (not_termNests_zero _)
      | succ levels =>
          have found : Grammar.factor levels (expr.tokens ++ [token]) = .found expr [token] :=
            factor_found_of_multiplicative spelled factor (factor.termNests_succ_iff.mp nests)
          rw [Grammar.term, chain_of_operator found spelled, factor.factors]
          -- With no level left, the depth is seen before the end of the tokens.
          cases levels <;> rfl
  | @product inner between left right inside factor _ ih =>
      cases levels with
      | zero => exact absurd nests (not_termNests_zero _)
      | succ levels =>
          obtain ⟨fits, nests⟩ := termNests_succ_product_iff.mp nests
          have split : (Expr.operation inner between left right).tokens ++ [token] =
              left.tokens ++ between :: (right.tokens ++ [token]) := by
            rw [Expr.tokens, List.append_assoc, List.cons_append]
          have found : Grammar.factor levels (left.tokens ++ between :: (right.tokens ++ [token])) =
              .found left (between :: (right.tokens ++ [token])) :=
            factor_found_of_multiplicative inside factor fits
          rw [split, Grammar.term, chain_of_operator found inside, ih nests, Expr.factors,
            List.length_cons]
          simp only [Nat.add_right_cancel_iff, Outcome.map]

end Last

end Grammar

namespace Command

open Grammar

variable {source : String} {expr : Expr}

/-! ## An operator below a text -/

theorem tokenize_symbol (operator : Operator) :
    tokenize operator.symbol = .ok [⟨.symbol, operator.symbol, .start⟩] := by
  apply tokenize_eq_ok_iff.mpr
  have single : ∃ c ∈ Lexeme.punctuation, operator.symbol = .ofList [c] := by
    cases operator <;> exact ⟨_, by decide, rfl⟩
  obtain ⟨c, member, spelled⟩ := single
  rw [spelled, String.toList_ofList]
  exact .token .nil (.symbol member) rfl (.done .nil)

/-- The place below the last line of a text. -/
def placeBelow (source : String) : Position :=
  ⟨source.length + 1, source.toList.count '\n' + 2, 1⟩

/-- Below a valid text an operator is one more token. -/
theorem tokenize_dangling (valid : check (some source) = .ok (.valid expr))
    (operator : Operator) :
    tokenize (source ++ "\n" ++ operator.symbol) =
      .ok (expr.tokens ++ [⟨.symbol, operator.symbol, placeBelow source⟩]) := by
  obtain ⟨formula, -, given⟩ := isFormula_of_valid valid
  have joined := tokenize_lines given operator.symbol
  have alone : (⟨operator.symbol.toList, .start, false⟩ : Lexer).tokens = _ :=
    tokenize_symbol operator
  have place : Position.start.below source.toList = placeBelow source := by
    simp only [Position.below, placeBelow, Position.start, String.length_toList, Position.mk.injEq,
      and_true]
    omega
  rw [formula.pointAfter_eq, alone] at joined
  rw [joined]
  simp only [Except.map, Except.mapError, List.map_cons, List.map_nil, Token.below, place]

/-- **A dangling operator is an error.** With an operator on the line below it, a valid text
fails in the parser. An additive operator misses its right operand, however deep it stands.
So does a multiplicative one, unless the last factor of the text, by its term and by its
place in that, takes the last level. Then the right operand is too deep, and there is
nothing to blame. -/
theorem dangling_operator_fails (valid : check (some source) = .ok (.valid expr))
    (operator : Operator) :
    let token : Token := ⟨.symbol, operator.symbol, placeBelow source⟩
    ∃ error last, Expr.ofSource (source ++ "\n" ++ operator.symbol) = .error error ∧
      error.origin = .parser ∧
      expr.terms.getLast? = some last ∧ last.factors.getLast? = some expr.lastFactor ∧
      if operator.isAdditive then
        error.message = "expecting expression" ∧ error.token? = some token
      else if expr.terms.length + last.factors.length = maxDepth then
        error.message = "expression nests too deeply" ∧ error.token? = none ∧
          error.position? = none
      else
        error.message = "isolated operator at end of input" ∧ error.token? = some token := by
  intro token
  obtain ⟨formula, nests, -⟩ := isFormula_of_valid valid
  obtain ⟨last, found, term, ends⟩ := formula.exists_last
  obtain ⟨remaining, levels, termNests⟩ := termNests_of_last nests found
  have failing (error : SyntaxError)
      (failed : sum (remaining + 1) (last.tokens ++ [token]) = .failed error []) :
      Expr.ofSource (source ++ "\n" ++ operator.symbol) = .error error := by
    rw [levels] at nests
    have whole := expression_failed_of_last formula nests found failed
    rw [← levels] at whole
    exact (check_of_failed (tokenize_dangling valid operator) (Cursor.parse_of_failed whole)).2
  have spelled : Operator.ofToken? token = some operator :=
    ofToken?_eq_some_iff.mpr ⟨rfl, rfl⟩
  cases additive : operator.isAdditive with
  | true =>
      have spelled := additive?_eq_some_iff.mpr ⟨spelled, additive⟩
      exact ⟨_, last, failing _ (sum_of_dangling_additive spelled term termNests), rfl, found,
        ends, rfl, rfl⟩
  | false =>
      have spelled := multiplicative?_eq_some_iff.mpr
        ⟨spelled, by rw [Operator.isMultiplicative, additive]; rfl⟩
      have failed := term_of_dangling_multiplicative spelled term termNests
      have atEnd : expr.terms.length + last.factors.length = maxDepth ↔
          last.factors.length = remaining + 1 := by omega
      refine ⟨_, last, failing _ (chain_of_failed (demand_eq_failed_iff.mpr (.inl failed))), ?_,
        found, ends, ?_⟩
      · split <;> rfl
      · simp only [atEnd, Bool.false_eq_true, if_false]
        split
        · exact ⟨rfl, rfl, rfl⟩
        · exact ⟨rfl, rfl⟩

/-- A product of 127 factors has no level left for one more. -/
theorem dangling_operator_fails_at_limit :
    let text := (List.replicate 126 ['1', '*']).flatten ++ ['1', '#', '+']
    let source := String.ofList text
    ∃ expr, check (some source) = .ok (.valid expr) ∧
      (∃ error, Expr.ofSource (source ++ "\n" ++ "*") = .error error ∧
        error.message = "expression nests too deeply" ∧ error.token? = none ∧
        error.position? = none) ∧
      ∃ error, Expr.ofSource (source ++ "\n" ++ "+") = .error error ∧
        error.message = "expecting expression" ∧
        error.token? = some ⟨.symbol, "+", ⟨256, 2, 1⟩⟩ := by
  intro text source
  have checked : (check (some source)).toOption.any (fun verdict => verdict.rest = [] ∧
      verdict.expr.terms.length = 1 ∧
      verdict.expr.terms.getLast?.any (·.factors.length = 127)) = true := by
    -- Without the text as a string, which is slow to take apart.
    have lexed : Cursor.ofSource source =
        (⟨text, .start, false⟩ : Lexer).tokens.map Cursor.ofTokens := by
      rw [Cursor.ofSource, tokenize, Lexer.ofString, String.toList_ofList]
    rw [check, lexed]
    decide +kernel
  have place : placeBelow source = ⟨256, 2, 1⟩ := by
    rw [placeBelow, String.length_ofList, String.toList_ofList]
    decide +kernel
  obtain ⟨verdict, result, known⟩ := (Option.any_eq_true _ _).mp checked
  obtain ⟨whole, terms, factors⟩ := of_decide_eq_true known
  have valid : check (some source) = .ok (.valid verdict.expr) := by
    cases outcome : check (some source) with
    | error failure =>
        rw [outcome] at result
        cases result
    | ok other =>
        rw [outcome] at result
        cases result
        have described := (exists_found_of_check outcome).2.2
        rw [whole] at described
        exact congrArg Except.ok described
  refine ⟨verdict.expr, valid, ?_, ?_⟩
  · obtain ⟨error, last, failed, -, found, -, described⟩ :=
      dangling_operator_fails valid .multiply
    rw [found] at factors
    have deep : verdict.expr.terms.length + last.factors.length = maxDepth := by
      rw [terms, of_decide_eq_true factors]
      rfl
    rw [if_neg (by decide), if_pos deep] at described
    exact ⟨error, failed, described⟩
  · obtain ⟨error, last, failed, -, -, -, described⟩ := dangling_operator_fails valid .add
    rw [if_pos (by decide), place] at described
    exact ⟨error, failed, described⟩

end Command

end DataFormula
