import DataFormula.Grammar

/-!
# Chains of operands

Terms and expressions are chains: an operand, and behind an operator of their level
the rest of the chain. What a chain comes to is told by what its operand and the
rest of it come to (`Grammar.chain_eq_found_iff`, `Grammar.chain_eq_absent_iff`,
`Grammar.chain_eq_failed_iff`). An expression is such a chain behind a sign, if it
has one (`Grammar.sum`).
-/

namespace DataFormula

namespace Grammar

section Chain

variable {operand more rule : List Token → Outcome} {operator? : Token → Option Operator}
  {missing : GrammarCause} {tokens rest : List Token} {expr : Expr} {error : SyntaxError}

theorem chain_of_absent (absent : operand tokens = .absent) :
    chain operand more operator? missing tokens = .absent := by
  simp [chain, absent]

theorem chain_of_failed (failed : operand tokens = .failed error rest) :
    chain operand more operator? missing tokens = .failed error rest := by
  simp [chain, failed]

theorem chain_of_stop (found : operand tokens = .found expr rest)
    (stops : ∀ next ∈ rest.head?, operator? next = none) :
    chain operand more operator? missing tokens = .found expr rest := by
  cases rest with
  | nil => simp [chain, found]
  | cons next rest =>
      have other : operator? next = none := stops next rfl
      simp [chain, found, other]

theorem chain_of_operator {token : Token} {operator : Operator}
    (found : operand tokens = .found expr (token :: rest))
    (spelled : operator? token = some operator) :
    chain operand more operator? missing tokens =
      match more rest with
      | .absent => .failed (.grammatical missing (some token)) rest
      | outcome => outcome.map (.operation operator token expr) := by
  cases outcome : more rest <;> simp only [chain, found, spelled, outcome]

/-- What the operand of a chain comes to: nothing, an error, an operand at which the
chain stops, or one with an operator behind it. -/
theorem chain_cases (operand : List Token → Outcome) (operator? : Token → Option Operator)
    (tokens : List Token) :
    operand tokens = .absent ∨
      (∃ error rest, operand tokens = .failed error rest) ∨
      (∃ expr rest, operand tokens = .found expr rest ∧
        ∀ next ∈ rest.head?, operator? next = none) ∨
      ∃ left token behind operator, operand tokens = .found left (token :: behind) ∧
        operator? token = some operator := by
  cases first : operand tokens with
  | absent => exact .inl rfl
  | failed error rest => exact .inr (.inl ⟨error, rest, rfl⟩)
  | found left rest =>
      cases rest with
      | nil => exact .inr (.inr (.inl ⟨left, [], rfl, by simp⟩))
      | cons token behind =>
          cases spelled : operator? token with
          | none => exact .inr (.inr (.inl ⟨left, token :: behind, rfl, by simpa using spelled⟩))
          | some operator => exact .inr (.inr (.inr ⟨left, token, behind, operator, rfl, spelled⟩))

/-- A chain is an operand that no operator follows, or an operand, an operator and
the rest of the chain. -/
theorem chain_eq_found_iff :
    chain operand more operator? missing tokens = .found expr rest ↔
      (operand tokens = .found expr rest ∧ ∀ next ∈ rest.head?, operator? next = none) ∨
      ∃ left token behind operator right, operand tokens = .found left (token :: behind) ∧
        operator? token = some operator ∧ more behind = .found right rest ∧
          expr = .operation operator token left right := by
  refine ⟨?_, ?_⟩
  · intro found
    rcases chain_cases operand operator? tokens with absent | ⟨error, others, failed⟩ |
      ⟨left, others, first, stops⟩ | ⟨left, token, behind, operator, first, spelled⟩
    · rw [chain_of_absent absent] at found
      cases found
    · rw [chain_of_failed failed] at found
      cases found
    · rw [chain_of_stop first stops] at found
      cases found
      exact .inl ⟨first, stops⟩
    · rw [chain_of_operator first spelled] at found
      cases second : more behind with
      | found right others =>
          rw [second] at found
          cases found
          exact .inr ⟨left, token, behind, operator, right, first, spelled, second, rfl⟩
      | _ =>
          rw [second] at found
          cases found
  · intro described
    rcases described with ⟨first, stops⟩ |
      ⟨left, token, behind, operator, right, first, spelled, second, rfl⟩
    · exact chain_of_stop first stops
    · rw [chain_of_operator first spelled, second]
      rfl

/-- A chain is absent exactly if its first operand is. -/
theorem chain_eq_absent_iff :
    chain operand more operator? missing tokens = .absent ↔ operand tokens = .absent := by
  refine ⟨fun absent => ?_, chain_of_absent⟩
  rcases chain_cases operand operator? tokens with first | ⟨error, others, failed⟩ |
    ⟨left, others, first, stops⟩ | ⟨left, token, behind, operator, first, spelled⟩
  · exact first
  · rw [chain_of_failed failed] at absent
    cases absent
  · rw [chain_of_stop first stops] at absent
    cases absent
  · rw [chain_of_operator first spelled] at absent
    cases second : more behind <;> rw [second] at absent <;> cases absent

/-- A chain fails like its first operand, for want of an operand behind its operator,
or like the rest of it. -/
theorem chain_eq_failed_iff :
    chain operand more operator? missing tokens = .failed error rest ↔
      operand tokens = .failed error rest ∨
      ∃ left token behind operator, operand tokens = .found left (token :: behind) ∧
        operator? token = some operator ∧
          ((more behind = .absent ∧ error = .grammatical missing (some token) ∧ rest = behind) ∨
            more behind = .failed error rest) := by
  refine ⟨?_, ?_⟩
  · intro failed
    rcases chain_cases operand operator? tokens with absent | ⟨other, others, first⟩ |
      ⟨left, others, first, stops⟩ | ⟨left, token, behind, operator, first, spelled⟩
    · rw [chain_of_absent absent] at failed
      cases failed
    · rw [chain_of_failed first] at failed
      exact .inl (first.trans failed)
    · rw [chain_of_stop first stops] at failed
      cases failed
    · rw [chain_of_operator first spelled] at failed
      refine .inr ⟨left, token, behind, operator, first, spelled, ?_⟩
      cases second : more behind with
      | absent =>
          rw [second] at failed
          cases failed
          exact .inl ⟨rfl, rfl, rfl⟩
      | found right others =>
          rw [second] at failed
          cases failed
      | failed other others =>
          rw [second] at failed
          exact .inr failed
  · intro described
    rcases described with first |
      ⟨left, token, behind, operator, first, spelled, ⟨second, rfl, rfl⟩ | second⟩
    · exact chain_of_failed first
    · rw [chain_of_operator first spelled, second]
    · rw [chain_of_operator first spelled, second]
      rfl

theorem demand_eq_found_iff :
    demand rule missing tokens = .found expr rest ↔ rule tokens = .found expr rest := by
  cases result : rule tokens <;> simp [demand, result]

theorem demand_eq_failed_iff :
    demand rule missing tokens = .failed error rest ↔
      rule tokens = .failed error rest ∨
        (rule tokens = .absent ∧ error = .grammatical missing tokens.head? ∧ rest = tokens) := by
  cases result : rule tokens <;> simp [demand, result, eq_comm]

theorem demand_ne_absent : demand rule missing tokens ≠ .absent := by
  cases result : rule tokens <;> simp [demand, result]

end Chain

/-- An expression behind its sign, if it has one. -/
def sum (levels : Nat) (tokens : List Token) : Outcome :=
  chain (demand (term levels) .missingTerm) (expression levels) additive? .missingExpression tokens

theorem expression_of_sign {levels : Nat} {sign : Token} {rest : List Token}
    (signed : sign.isSymbol "-" = true) (inhabited : rest ≠ []) :
    expression (levels + 1) (sign :: rest) = (sum levels rest).map (.negate sign) := by
  simp [expression, signed, inhabited, sum]

theorem expression_of_lone_sign {levels : Nat} {sign : Token}
    (signed : sign.isSymbol "-" = true) :
    expression (levels + 1) [sign] = .failed (.grammatical .loneNegation (some sign)) [] := by
  simp [expression, signed]

theorem expression_of_no_sign {levels : Nat} {first : Token} {rest : List Token}
    (unsigned : first.isSymbol "-" = false) :
    expression (levels + 1) (first :: rest) = sum levels (first :: rest) := by
  simp [expression, unsigned, sum]

theorem sum_ne_absent {levels : Nat} {tokens : List Token} : sum levels tokens ≠ .absent := by
  rw [sum, Ne, chain_eq_absent_iff]
  exact demand_ne_absent

/-- Tokens are none, a lone sign, a sign with tokens behind it, or start with no sign. -/
theorem sign_cases (tokens : List Token) :
    tokens = [] ∨ (∃ sign, tokens = [sign] ∧ sign.isSymbol "-" = true) ∨
      (∃ sign rest, tokens = sign :: rest ∧ sign.isSymbol "-" = true ∧ rest ≠ []) ∨
      ∃ first rest, tokens = first :: rest ∧ first.isSymbol "-" = false := by
  cases tokens with
  | nil => exact .inl rfl
  | cons first rest =>
      by_cases signed : first.isSymbol "-" = true
      · cases rest with
        | nil => exact .inr (.inl ⟨first, rfl, signed⟩)
        | cons second rest =>
            exact .inr (.inr (.inl ⟨first, second :: rest, rfl, signed, List.cons_ne_nil _ _⟩))
      · exact .inr (.inr (.inr ⟨first, rest, rfl, Bool.eq_false_iff.mpr signed⟩))

/-- With a level to start on, an expression is absent exactly if there are no tokens. -/
theorem expression_succ_eq_absent_iff {levels : Nat} {tokens : List Token} :
    expression (levels + 1) tokens = .absent ↔ tokens = [] := by
  refine ⟨fun absent => ?_, fun empty => by rw [empty]; rfl⟩
  rcases sign_cases tokens with empty | ⟨sign, rfl, signed⟩ | ⟨sign, rest, rfl, signed, inhabited⟩ |
    ⟨first, rest, rfl, unsigned⟩
  · exact empty
  · rw [expression_of_lone_sign signed] at absent
    cases absent
  · rw [expression_of_sign signed inhabited] at absent
    cases result : sum levels rest with
    | absent => exact absurd result sum_ne_absent
    | _ =>
        rw [result] at absent
        cases absent
  · rw [expression_of_no_sign unsigned] at absent
    exact absurd absent sum_ne_absent

/-- An expression fails at a lone sign, or like the sum behind its sign. -/
theorem expression_succ_eq_failed_iff {levels : Nat} {tokens rest : List Token}
    {error : SyntaxError} :
    expression (levels + 1) tokens = .failed error rest ↔
      (∃ sign, tokens = [sign] ∧ sign.isSymbol "-" = true ∧
        error = .grammatical .loneNegation (some sign) ∧ rest = []) ∨
      (∃ sign behind, tokens = sign :: behind ∧ sign.isSymbol "-" = true ∧ behind ≠ [] ∧
        sum levels behind = .failed error rest) ∨
      (∃ first behind, tokens = first :: behind ∧ first.isSymbol "-" = false ∧
        sum levels tokens = .failed error rest) := by
  refine ⟨?_, ?_⟩
  · intro failed
    rcases sign_cases tokens with rfl | ⟨sign, rfl, signed⟩ |
      ⟨sign, behind, rfl, signed, inhabited⟩ | ⟨first, behind, rfl, unsigned⟩
    · cases failed
    · rw [expression_of_lone_sign signed] at failed
      cases failed
      exact .inl ⟨sign, rfl, signed, rfl, rfl⟩
    · rw [expression_of_sign signed inhabited] at failed
      refine .inr (.inl ⟨sign, behind, rfl, signed, inhabited, ?_⟩)
      cases result : sum levels behind with
      | failed other others =>
          rw [result] at failed
          exact failed
      | _ =>
          rw [result] at failed
          cases failed
    · rw [expression_of_no_sign unsigned] at failed
      exact .inr (.inr ⟨first, behind, rfl, unsigned, failed⟩)
  · intro described
    rcases described with ⟨sign, rfl, signed, rfl, rfl⟩ |
      ⟨sign, behind, rfl, signed, inhabited, failed⟩ | ⟨first, behind, rfl, unsigned, failed⟩
    · exact expression_of_lone_sign signed
    · rw [expression_of_sign signed inhabited, failed]
      rfl
    · rw [expression_of_no_sign unsigned, failed]

end Grammar

end DataFormula
