import DataFormula.Proofs.Grammar.Blame
import DataFormula.Proofs.Grammar.CorrectPrefix

/-!
# One token of lookahead

The grammar reads tokens one by one and looks at most at the one behind them. So it
answers alike wherever the tokens it has read stand, if the next one is the same there
or is missing there too (`Grammar.expression_found_local`,
`Grammar.expression_failed_local`). For a cursor this is a property of two runs: what
stands before its start and what stands behind the token under its end decide nothing
(`Cursor.parse_local`).
-/

namespace DataFormula

namespace Grammar

section Local

variable {levels : Nat} {seen rest other : List Token} {expr : Expr} {error : SyntaxError}

/-- An expression that is found is found again before other tokens that start alike. -/
theorem expression_found_local (found : expression levels (seen ++ rest) = .found expr rest)
    (alike : other.head? = rest.head?) :
    expression levels (seen ++ other) = .found expr other := by
  obtain ⟨formula, nests, split, pathStops, stops⟩ := expression_eq_found_iff.mp found
  obtain rfl : seen = expr.tokens := List.append_cancel_right split
  apply expression_eq_found_iff.mpr
  refine ⟨formula, nests, rfl, ?_, ?_⟩
  · rwa [PathStops, alike]
  · rwa [alike]

/-- An expression that fails does so again before other tokens that start alike. -/
theorem expression_failed_local
    (failed : expression (levels + 2) (seen ++ rest) = .failed error rest)
    (alike : other.head? = rest.head?) :
    expression (levels + 2) (seen ++ other) = .failed error other := by
  obtain ⟨-, cause, blamed, -, rfl, -⟩ := expression_failed_pointsAt failed
  obtain ⟨passed, split, stable⟩ := expression_failed_stable failed (Nat.le_refl _) fun _ => rfl
  obtain rfl : seen = passed := List.append_cancel_right split
  exact stable other (.inr alike)

end Local

end Grammar

namespace Cursor

open Grammar

/-- Tokens that agree with others in a window that reaches one further than what is read
there can be split in the same way. -/
theorem exists_split_of_window {tokens others seen rest : List Token} {start place : Nat}
    (split : tokens.drop start = seen ++ rest)
    (same : ∀ i ≤ seen.length, others[place + i]? = tokens[start + i]?) :
    ∃ behind, others.drop place = seen ++ behind ∧ behind.head? = rest.head? := by
  have agree : ∀ i ≤ seen.length, (others.drop place)[i]? = (seen ++ rest)[i]? := by
    intro i within
    rw [← split, List.getElem?_drop, List.getElem?_drop, same i within]
  have read : (others.drop place).take seen.length = seen := by
    apply List.ext_getElem?
    intro i
    by_cases within : i < seen.length
    · rw [List.getElem?_take_of_lt within, agree i (Nat.le_of_lt within),
        List.getElem?_append_left within]
    · have beyond := Nat.le_of_not_lt within
      rw [List.getElem?_take_eq_none beyond, List.getElem?_eq_none beyond]
  refine ⟨(others.drop place).drop seen.length, ?_, ?_⟩
  · calc others.drop place
        = (others.drop place).take seen.length ++ (others.drop place).drop seen.length :=
          (List.take_append_drop _ _).symm
      _ = seen ++ (others.drop place).drop seen.length := by rw [read]
  · rw [List.head?_drop, agree _ (Nat.le_refl _), List.getElem?_append_right (Nat.le_refl _),
      Nat.sub_self, List.head?_eq_getElem?]

/-- What a cursor reads, and how it answers to other tokens that start with that and go on
alike. -/
theorem exists_split_local (tokens : List Token) (start : Nat) :
    ∃ seen rest result, tokens.drop start = seen ++ rest ∧
      ∀ others place behind, others.drop place = seen ++ behind → behind.head? = rest.head? →
        Cursor.parse ⟨others, place⟩ = (result, ⟨others, place + seen.length⟩) := by
  cases outcome : expression maxDepth (tokens.drop start) with
  | absent =>
      have empty := expression_succ_eq_absent_iff.mp outcome
      refine ⟨[], [], .error (.grammatical .emptyInput none), empty, ?_⟩
      intro others place behind split alike
      rw [List.head?_eq_none_iff.mp alike] at split
      exact parse_of_absent (expression_succ_eq_absent_iff.mpr split)
  | found expr rest =>
      obtain ⟨-, -, split, -⟩ := expression_eq_found_iff.mp outcome
      refine ⟨expr.tokens, rest, .ok expr, split, ?_⟩
      intro others place behind split' alike
      rw [split] at outcome
      rw [← advanceTo_eq split']
      apply parse_of_found
      rw [remaining, split']
      exact expression_found_local outcome alike
  | failed error rest =>
      obtain ⟨seen, -, -, split, -⟩ := expression_failed_pointsAt outcome
      refine ⟨seen, rest, .error error, split, ?_⟩
      intro others place behind split' alike
      rw [split] at outcome
      rw [← advanceTo_eq split']
      apply parse_of_failed
      rw [remaining, split']
      exact expression_failed_local outcome alike

/-- **One token of lookahead.** A cursor moves forward. Over any other tokens that agree
with its own from its start to the token under its end, both missing counting as equal, it
comes to the same result, be it a formula or an error, and moves as far. -/
theorem parse_local {tokens others : List Token} {start place : Nat}
    (same : ∀ i ≤ (Cursor.parse ⟨tokens, start⟩).2.position - start,
      others[place + i]? = tokens[start + i]?) :
    start ≤ (Cursor.parse ⟨tokens, start⟩).2.position ∧
      Cursor.parse ⟨others, place⟩ = ((Cursor.parse ⟨tokens, start⟩).1,
        ⟨others, place + ((Cursor.parse ⟨tokens, start⟩).2.position - start)⟩) := by
  obtain ⟨seen, rest, result, split, answers⟩ := exists_split_local tokens start
  have parsed := answers tokens start rest split rfl
  rw [parsed] at same ⊢
  simp only [Nat.add_sub_cancel_left] at same ⊢
  obtain ⟨behind, split', alike⟩ := exists_split_of_window split same
  exact ⟨Nat.le_add_right _ _, answers others place behind split' alike⟩

/-- In `$a . ) *` and in `( $a . ) * 1` the same parenthesis is no key. -/
theorem parse_local_invalid_key :
    let opening : Token := ⟨.symbol, "(", ⟨7, 1, 8⟩⟩
    let name : Token := ⟨.reference, "a", .start⟩
    let point : Token := ⟨.symbol, ".", ⟨2, 1, 3⟩⟩
    let closing : Token := ⟨.symbol, ")", ⟨3, 1, 4⟩⟩
    let times : Token := ⟨.symbol, "*", ⟨4, 1, 5⟩⟩
    let one : Token := ⟨.integer, "1", ⟨5, 1, 6⟩⟩
    let tokens := [name, point, closing, times]
    let others := [opening, name, point, closing, times, one]
    (∀ i ≤ (Cursor.parse ⟨tokens, 0⟩).2.position - 0, others[1 + i]? = tokens[0 + i]?) ∧
      Cursor.parse ⟨others, 1⟩ =
        (.error (.grammatical .invalidKey (some closing)), ⟨others, 4⟩) := by
  intro opening name point closing times one tokens others
  have same : ∀ i ≤ (Cursor.parse ⟨tokens, 0⟩).2.position - 0,
      others[1 + i]? = tokens[0 + i]? := by decide +kernel
  exact ⟨same, (parse_local same).2⟩

end Cursor

end DataFormula
