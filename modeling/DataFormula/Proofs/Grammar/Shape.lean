import DataFormula.Grammar

/-!
# The shape of formulas

The trees that stand for formulas, one level after the other: keys, paths (a
reference with its accessors), factors, terms and formulas (`Grammar.IsFormula`).
A formula is also read flat, as a sum of terms that are products of factors, signs
left out (`Expr.terms`, `Expr.factors`). A factor nests as deep as its place in
the sum, its place in the product and the number of its accessors say together;
`Expr.Nests` bounds that for every factor.
-/

namespace DataFormula

namespace Grammar

/-- A key: a literal that is no `float`, any word, or a reference without accessors. -/
inductive IsKey : Expr → Prop where
  | value {token : Token} (kind : token.kind = .integer ∨ token.kind = .string) :
      IsKey (.value token)
  | identifier {token : Token} (kind : token.kind = .identifier) : IsKey (.identifier token)
  | reference {token : Token} (kind : token.kind = .reference) : IsKey (.reference token)

/-- A reference with any number of accessors, the last one outermost. -/
inductive IsPath : Expr → Prop where
  | reference {token : Token} (kind : token.kind = .reference) : IsPath (.reference token)
  | access {point : Token} {object key : Expr} (spelled : point.isSymbol "." = true)
      (path : IsPath object) (isKey : IsKey key) : IsPath (.access point object key)

/-- A literal or a path. -/
inductive IsFactor : Expr → Prop where
  | literal {token : Token} (isLiteral : isLiteral token = true) : IsFactor (.value token)
  | path {expr : Expr} (path : IsPath expr) : IsFactor expr

/-- A factor, or the product of a factor and a term. -/
inductive IsTerm : Expr → Prop where
  | factor {expr : Expr} (factor : IsFactor expr) : IsTerm expr
  | product {operator : Operator} {token : Token} {left right : Expr}
      (spelled : multiplicative? token = some operator) (factor : IsFactor left)
      (term : IsTerm right) : IsTerm (.operation operator token left right)

/-- A term, or the sum of a term and a formula; either one may be negated. -/
inductive IsFormula : Expr → Prop where
  | term {expr : Expr} (term : IsTerm expr) : IsFormula expr
  | sum {operator : Operator} {token : Token} {left right : Expr}
      (spelled : additive? token = some operator) (term : IsTerm left)
      (formula : IsFormula right) : IsFormula (.operation operator token left right)
  | negatedTerm {sign : Token} {expr : Expr} (signed : sign.isSymbol "-" = true)
      (term : IsTerm expr) : IsFormula (.negate sign expr)
  | negatedSum {sign : Token} {operator : Operator} {token : Token} {left right : Expr}
      (signed : sign.isSymbol "-" = true) (spelled : additive? token = some operator)
      (term : IsTerm left) (formula : IsFormula right) :
      IsFormula (.negate sign (.operation operator token left right))

/-- Whether a factor can start with a token. -/
def startsFactor (token : Token) : Bool := isLiteral token || token.kind == .reference

end Grammar

namespace Expr

/-- The number of accessors of a factor. -/
def accessorCount : Expr → Nat
  | access _ object _ => object.accessorCount + 1
  | _ => 0

/-- The factors of a term from left to right. -/
def factors : Expr → List Expr
  | operation _ _ left right => left :: right.factors
  | expr => [expr]

/-- The terms of a formula from left to right, whatever signs stand before them. -/
def terms : Expr → List Expr
  | operation operator token left right =>
    if operator.isAdditive then left :: right.terms
    else [operation operator token left right]
  | negate _ operand => operand.terms
  | expr => [expr]

/-- The last factor of a formula. -/
def lastFactor : Expr → Expr
  | operation _ _ _ right => right.lastFactor
  | negate _ operand => operand.lastFactor
  | expr => expr

/-- Every factor of a term lies within a number of levels: it takes one for each
factor up to itself and one for each of its accessors. -/
def TermNests (levels : Nat) (term : Expr) : Prop :=
  ∀ (j : Nat) (factor : Expr), term.factors[j]? = some factor →
    (j + 1) + factor.accessorCount ≤ levels

theorem TermNests.mono {levels deeper : Nat} {term : Expr} (nests : term.TermNests levels)
    (enough : levels ≤ deeper) : term.TermNests deeper :=
  fun j factor place => Nat.le_trans (nests j factor place) enough

/-- Every factor of a formula lies within a number of levels: it takes one for each
term up to its own, one for each factor of that up to itself, and one for each of
its accessors. -/
def Nests (levels : Nat) (expr : Expr) : Prop :=
  ∀ (i : Nat) (term : Expr), expr.terms[i]? = some term →
    ∀ (j : Nat) (factor : Expr), term.factors[j]? = some factor →
      (i + 1) + (j + 1) + factor.accessorCount ≤ levels

theorem Nests.mono {levels deeper : Nat} {expr : Expr} (nests : expr.Nests levels)
    (enough : levels ≤ deeper) : expr.Nests deeper :=
  fun i term found j factor place => Nat.le_trans (nests i term found j factor place) enough

end Expr

namespace Grammar

/-! ## Operators and points -/

/-- An operator of either level is a symbol that spells it. -/
theorem ofToken?_eq_some_iff {token : Token} {operator : Operator} :
    Operator.ofToken? token = some operator ↔
      token.kind = .symbol ∧ token.data = operator.symbol := by
  by_cases symbol : token.kind = .symbol
  · simp only [Operator.ofToken?, symbol, if_true, true_and]
    exact Operator.ofSymbol?_eq_some_iff
  · simp [Operator.ofToken?, symbol]

theorem isSymbol_iff {token : Token} {text : String} :
    token.isSymbol text = true ↔ token.kind = .symbol ∧ token.data = text := by
  simp [Token.isSymbol]

/-- The two levels share out the operators. -/
theorem ofToken?_eq_none_iff {token : Token} :
    Operator.ofToken? token = none ↔ additive? token = none ∧ multiplicative? token = none := by
  unfold additive? multiplicative?
  cases found : Operator.ofToken? token with
  | none => simp
  | some operator => cases operator <;> decide

theorem additive?_eq_some_iff {token : Token} {operator : Operator} :
    additive? token = some operator ↔
      Operator.ofToken? token = some operator ∧ operator.isAdditive = true := by
  simp [additive?, Option.filter_eq_some_iff]

theorem multiplicative?_eq_some_iff {token : Token} {operator : Operator} :
    multiplicative? token = some operator ↔
      Operator.ofToken? token = some operator ∧ operator.isMultiplicative = true := by
  simp [multiplicative?, Option.filter_eq_some_iff]

theorem isSymbol_point_of_ofToken? {token : Token} {operator : Operator}
    (spelled : Operator.ofToken? token = some operator) : token.isSymbol "." = false := by
  obtain ⟨-, data⟩ := ofToken?_eq_some_iff.mp spelled
  have other : operator.symbol ≠ "." := by cases operator <;> decide
  simp [Token.isSymbol, data, other]

theorem multiplicative?_eq_none_of_additive? {token : Token} {operator : Operator}
    (spelled : additive? token = some operator) : multiplicative? token = none := by
  obtain ⟨found, additive⟩ := additive?_eq_some_iff.mp spelled
  simp [multiplicative?, found, Operator.isMultiplicative, additive]

theorem additive?_eq_none_of_multiplicative? {token : Token} {operator : Operator}
    (spelled : multiplicative? token = some operator) : additive? token = none := by
  rw [Option.eq_none_iff_forall_ne_some]
  intro other additive
  rw [multiplicative?_eq_none_of_additive? additive] at spelled
  cases spelled

theorem ofToken?_eq_none_of_kind {token : Token} (kind : token.kind ≠ .symbol) :
    Operator.ofToken? token = none := if_neg kind

theorem ofToken?_eq_none_of_point {token : Token} (spelled : token.isSymbol "." = true) :
    Operator.ofToken? token = none := by
  rw [Option.eq_none_iff_forall_ne_some]
  intro operator found
  rw [isSymbol_point_of_ofToken? found] at spelled
  cases spelled

theorem additive?_eq_some_of_sign {token : Token} (signed : token.isSymbol "-" = true) :
    additive? token = some .subtract := by
  obtain ⟨kind, data⟩ := isSymbol_iff.mp signed
  exact additive?_eq_some_iff.mpr ⟨ofToken?_eq_some_iff.mpr ⟨kind, data⟩, rfl⟩

theorem kind_ne_symbol_of_startsFactor {token : Token} (starts : startsFactor token = true) :
    token.kind ≠ .symbol := by
  intro symbol
  simp [startsFactor, isLiteral, symbol] at starts

theorem kind_ne_symbol_of_isLiteral {token : Token} (literal : isLiteral token = true) :
    token.kind ≠ .symbol :=
  kind_ne_symbol_of_startsFactor (by simp [startsFactor, literal])

theorem startsFactor_of_isSymbol {token : Token} {text : String}
    (spelled : token.isSymbol text = true) : startsFactor token = false := by
  rw [Bool.eq_false_iff]
  exact fun start => kind_ne_symbol_of_startsFactor start (isSymbol_iff.mp spelled).1

theorem startsFactor_of_operator {token : Token} {operator : Operator}
    (spelled : Operator.ofToken? token = some operator) : startsFactor token = false := by
  rw [Bool.eq_false_iff]
  exact fun start => kind_ne_symbol_of_startsFactor start (ofToken?_eq_some_iff.mp spelled).1

/-! ## Keys, paths and factors -/

/-- A token is a key exactly as the tree of one leaf that holds it. -/
theorem key?_eq_some_iff {token : Token} {key : Expr} :
    key? token = some key ↔ IsKey key ∧ key.tokens = [token] := by
  refine ⟨?_, ?_⟩
  · intro found
    unfold key? at found
    split at found <;> cases found <;> rename_i kind
    · exact ⟨.value (.inl kind), rfl⟩
    · exact ⟨.value (.inr kind), rfl⟩
    · exact ⟨.identifier kind, rfl⟩
    · exact ⟨.reference kind, rfl⟩
  · intro described
    obtain ⟨isKey, tokens⟩ := described
    cases isKey with
    | value kind =>
        cases tokens
        rcases kind with kind | kind <;> simp [key?, kind]
    | identifier kind =>
        cases tokens
        simp [key?, kind]
    | reference kind =>
        cases tokens
        simp [key?, kind]

theorem IsKey.exists_token {key : Expr} (isKey : IsKey key) :
    ∃ token, key.tokens = [token] ∧ token.kind ≠ .symbol := by
  cases isKey with
  | value kind => exact ⟨_, rfl, by rcases kind with kind | kind <;> simp [kind]⟩
  | identifier kind => exact ⟨_, rfl, by simp [kind]⟩
  | reference kind => exact ⟨_, rfl, by simp [kind]⟩

theorem IsFactor.factors {expr : Expr} (factor : IsFactor expr) : expr.factors = [expr] := by
  rcases factor with _ | ⟨_ | _⟩ <;> rfl

theorem IsFactor.lastFactor {expr : Expr} (factor : IsFactor expr) : expr.lastFactor = expr := by
  rcases factor with _ | ⟨_ | _⟩ <;> rfl

theorem IsTerm.terms {expr : Expr} (term : IsTerm expr) : expr.terms = [expr] := by
  rcases term with ⟨_ | ⟨_ | _⟩⟩ | ⟨spelled, -, -⟩
  · rfl
  · rfl
  · rfl
  · have tighter := (multiplicative?_eq_some_iff.mp spelled).2
    simp only [Operator.isMultiplicative, Bool.not_eq_eq_eq_not, Bool.not_true] at tighter
    simp [Expr.terms, tighter]

theorem IsPath.head {expr : Expr} (path : IsPath expr) :
    ∃ token rest, expr.tokens = token :: rest ∧ token.kind = .reference := by
  induction path with
  | @reference token kind => exact ⟨token, [], rfl, kind⟩
  | @access point object key _ _ _ ih =>
      obtain ⟨token, rest, tokens, kind⟩ := ih
      exact ⟨token, rest ++ point :: key.tokens, by simp [Expr.tokens, tokens], kind⟩

theorem IsFactor.head {expr : Expr} (factor : IsFactor expr) :
    ∃ token rest, expr.tokens = token :: rest ∧ startsFactor token = true := by
  cases factor with
  | @literal token isLiteral => exact ⟨token, [], rfl, by simp [startsFactor, isLiteral]⟩
  | path path =>
      obtain ⟨token, rest, tokens, kind⟩ := path.head
      exact ⟨token, rest, tokens, by simp [startsFactor, kind]⟩

theorem IsTerm.head {expr : Expr} (term : IsTerm expr) :
    ∃ token rest, expr.tokens = token :: rest ∧ startsFactor token = true := by
  cases term with
  | factor factor => exact factor.head
  | @product operator point left right _ factor _ =>
      obtain ⟨token, rest, tokens, starts⟩ := factor.head
      exact ⟨token, rest ++ point :: right.tokens, by simp [Expr.tokens, tokens], starts⟩

/-! ## Formulas without their sign -/

/-- A formula whose first term is not negated together with the others. -/
def IsSum (expr : Expr) : Prop :=
  IsTerm expr ∨ ∃ operator token left right, expr = .operation operator token left right ∧
    additive? token = some operator ∧ IsTerm left ∧ IsFormula right

/-- A formula is a sum or the negation of one. -/
theorem isFormula_iff {expr : Expr} :
    IsFormula expr ↔
      IsSum expr ∨ ∃ sign operand, expr = .negate sign operand ∧
        sign.isSymbol "-" = true ∧ IsSum operand := by
  refine ⟨?_, ?_⟩
  · intro formula
    cases formula with
    | term term => exact .inl (.inl term)
    | sum spelled term formula => exact .inl (.inr ⟨_, _, _, _, rfl, spelled, term, formula⟩)
    | negatedTerm signed term => exact .inr ⟨_, _, rfl, signed, .inl term⟩
    | negatedSum signed spelled term formula =>
        exact .inr ⟨_, _, rfl, signed, .inr ⟨_, _, _, _, rfl, spelled, term, formula⟩⟩
  · intro parts
    rcases parts with (term | ⟨_, _, _, _, rfl, spelled, term, formula⟩) | ⟨_, _, rfl, signed,
      term | ⟨_, _, _, _, rfl, spelled, term, formula⟩⟩
    · exact .term term
    · exact .sum spelled term formula
    · exact .negatedTerm signed term
    · exact .negatedSum signed spelled term formula

theorem IsSum.head {expr : Expr} (sum : IsSum expr) :
    ∃ token rest, expr.tokens = token :: rest ∧ startsFactor token = true := by
  rcases sum with term | ⟨operator, point, left, right, rfl, _, term, _⟩
  · exact term.head
  · obtain ⟨token, rest, tokens, starts⟩ := term.head
    exact ⟨token, rest ++ point :: right.tokens, by simp [Expr.tokens, tokens], starts⟩

theorem IsSum.isSymbol_head {expr : Expr} (sum : IsSum expr) {token : Token} {rest : List Token}
    (tokens : expr.tokens = token :: rest) : token.isSymbol "-" = false := by
  obtain ⟨first, others, same, starts⟩ := sum.head
  rw [tokens] at same
  cases same
  simp [Token.isSymbol, kind_ne_symbol_of_startsFactor starts]

/-! ## Nesting, one node after the other -/

/-- What holds at every place of a list holds at the first one and further on. -/
theorem forall_getElem?_cons_iff {α : Type} {P : Nat → α → Prop} {first : α} {others : List α} :
    (∀ i x, (first :: others)[i]? = some x → P i x) ↔
      P 0 first ∧ ∀ i x, others[i]? = some x → P (i + 1) x := by
  refine ⟨fun each => ⟨each 0 first rfl, fun i => each (i + 1)⟩, fun both i x found => ?_⟩
  cases i with
  | zero =>
      cases found
      exact both.1
  | succ i => exact both.2 i x found

theorem forall_getElem?_singleton_iff {α : Type} {P : Nat → α → Prop} {first : α} :
    (∀ i x, [first][i]? = some x → P i x) ↔ P 0 first := by
  rw [forall_getElem?_cons_iff, and_iff_left nofun]

theorem not_termNests_zero (term : Expr) : ¬ term.TermNests 0 := by
  intro nests
  cases term with
  | operation operator token left right =>
      have := nests 0 left rfl
      omega
  | _ =>
      have := nests 0 _ rfl
      omega

theorem not_nests_zero (expr : Expr) : ¬ expr.Nests 0 := by
  intro nests
  have first : ∃ term, expr.terms[0]? = some term := by
    induction expr with
    | operation operator token left right =>
        by_cases additive : operator.isAdditive = true <;> simp [Expr.terms, additive]
    | negate token operand ih => exact ih nests
    | _ => exact ⟨_, rfl⟩
  obtain ⟨term, found⟩ := first
  apply not_termNests_zero term
  intro j factor place
  have := nests 0 term found j factor place
  omega

/-- A factor takes a level for itself and one for each accessor. -/
theorem IsFactor.termNests_succ_iff {expr : Expr} (factor : IsFactor expr) {levels : Nat} :
    expr.TermNests (levels + 1) ↔ expr.accessorCount ≤ levels := by
  unfold Expr.TermNests
  rw [factor.factors, forall_getElem?_singleton_iff]
  omega

/-- The right operand of a product starts one level further down. -/
theorem termNests_succ_product_iff {operator : Operator} {token : Token} {left right : Expr}
    {levels : Nat} :
    (Expr.operation operator token left right).TermNests (levels + 1) ↔
      left.accessorCount ≤ levels ∧ right.TermNests levels := by
  have deeper : ∀ j k, j + 1 + 1 + k ≤ levels + 1 ↔ j + 1 + k ≤ levels := fun j k => by omega
  unfold Expr.TermNests
  rw [Expr.factors, forall_getElem?_cons_iff]
  simp only [deeper, Nat.zero_add, Nat.add_comm 1, Nat.add_le_add_iff_right]

/-- A term takes one level as a term. -/
theorem IsTerm.nests_succ_iff {expr : Expr} (term : IsTerm expr) {levels : Nat} :
    expr.Nests (levels + 1) ↔ expr.TermNests levels := by
  have deeper : ∀ j k, 0 + 1 + (j + 1) + k ≤ levels + 1 ↔ j + 1 + k ≤ levels := by omega
  unfold Expr.Nests Expr.TermNests
  rw [term.terms, forall_getElem?_singleton_iff]
  simp only [deeper]

/-- The right operand of a sum starts one level further down. -/
theorem nests_succ_sum_iff {operator : Operator} {token : Token} {left right : Expr}
    (spelled : additive? token = some operator) {levels : Nat} :
    (Expr.operation operator token left right).Nests (levels + 1) ↔
      left.TermNests levels ∧ right.Nests levels := by
  have additive := (additive?_eq_some_iff.mp spelled).2
  have first : ∀ j k, 0 + 1 + (j + 1) + k ≤ levels + 1 ↔ j + 1 + k ≤ levels := by omega
  have deeper : ∀ i j k, i + 1 + 1 + (j + 1) + k ≤ levels + 1 ↔ i + 1 + (j + 1) + k ≤ levels := by
    omega
  unfold Expr.Nests Expr.TermNests
  rw [Expr.terms, if_pos additive, forall_getElem?_cons_iff]
  simp only [first, deeper]

/-- A sign takes no level. -/
theorem nests_negate_iff {sign : Token} {operand : Expr} {levels : Nat} :
    (Expr.negate sign operand).Nests levels ↔ operand.Nests levels :=
  Iff.rfl

end Grammar

end DataFormula
