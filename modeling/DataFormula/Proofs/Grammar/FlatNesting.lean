import DataFormula.Proofs.Grammar.Shape

/-!
# Nesting without a tree

How deep a factor nests can be told from the tokens before and behind it: it takes a
level for each term up to its own, one for each factor of that up to itself, and one for
each of its accessors (`Grammar.levelsAt`). For the tokens of a formula this is what its
tree says (`Grammar.IsFormula.withinLevels_iff`).
-/

namespace DataFormula

namespace Grammar

/-! ## Counting tokens -/

/-- The number of sums among tokens: additive operators behind an operand. The others are
signs. The tokens stand behind an operand if `operand` says so. -/
def sumsIn (operand : Bool) : List Token → Nat
  | [] => 0
  | token :: rest =>
    (if operand && (additive? token).isSome then 1 else 0) + sumsIn (token.kind != .symbol) rest

/-- The number of products behind the last additive operator. -/
def productsIn (tokens : List Token) : Nat :=
  (tokens.reverse.takeWhile fun token => (additive? token).isNone).countP
    fun token => (multiplicative? token).isSome

/-- The number of points before the first operator. -/
def accessorsIn (tokens : List Token) : Nat :=
  (tokens.takeWhile fun token => (Operator.ofToken? token).isNone).countP (·.isSymbol ".")

/-- The number of levels that a factor takes between tokens. -/
def levelsAt (before after : List Token) : Nat :=
  (sumsIn false before + 1) + (productsIn before + 1) + accessorsIn after

/-- Every factor among tokens lies within a number of levels. A token behind a point is a
key and starts none. -/
def WithinLevels (levels : Nat) (tokens : List Token) : Prop :=
  ∀ before factor after, tokens = before ++ factor :: after → startsFactor factor = true →
    (∀ last ∈ before.getLast?, last.isSymbol "." = false) → levelsAt before after ≤ levels

/-- Whether tokens end with an operand, if they stand behind one if `operand` says so. -/
def endsOperand (operand : Bool) (tokens : List Token) : Bool :=
  tokens.foldl (fun _ token => token.kind != .symbol) operand

section Counting

variable {first second tokens : List Token} {token : Token} {operand : Bool}

theorem sumsIn_append :
    sumsIn operand (first ++ second) =
      sumsIn operand first + sumsIn (endsOperand operand first) second := by
  induction first generalizing operand with
  | nil => simp [sumsIn, endsOperand]
  | cons token first ih =>
      rw [List.cons_append, sumsIn, ih, sumsIn, Nat.add_assoc]
      rfl

theorem sumsIn_eq_zero (tighter : ∀ token ∈ tokens, additive? token = none) :
    sumsIn operand tokens = 0 := by
  induction tokens generalizing operand with
  | nil => rfl
  | cons token tokens ih =>
      obtain ⟨here, others⟩ := List.forall_mem_cons.mp tighter
      simp [sumsIn, here, ih others]

theorem endsOperand_concat :
    endsOperand operand (tokens ++ [token]) = (token.kind != .symbol) := by
  simp [endsOperand]

theorem productsIn_concat_of_additive (additive : (additive? token).isSome = true) :
    productsIn (tokens ++ [token]) = 0 := by
  have stops : (additive? token).isNone = false := by simpa using additive
  simp [productsIn, stops]

theorem productsIn_append_concat (first : List Token)
    (noOperator : ∀ token ∈ second, Operator.ofToken? token = none) {operator : Operator}
    (spelled : multiplicative? token = some operator) :
    productsIn (first ++ (second ++ [token])) = productsIn first + 1 := by
  have goesOn : (additive? token).isNone = true := by
    simp [additive?_eq_none_of_multiplicative? spelled]
  have noAdditive : ∀ token ∈ second.reverse, (additive? token).isNone = true := by
    intro token member
    have absent := noOperator token (List.mem_reverse.mp member)
    simp [(ofToken?_eq_none_iff.mp absent).1]
  have noProduct : second.reverse.countP (fun token => (multiplicative? token).isSome) = 0 := by
    rw [List.countP_eq_zero]
    intro token member
    have absent := noOperator token (List.mem_reverse.mp member)
    simp [(ofToken?_eq_none_iff.mp absent).2]
  have reversed : (first ++ (second ++ [token])).reverse =
      token :: (second.reverse ++ first.reverse) := by simp
  unfold productsIn
  rw [reversed, List.takeWhile_cons, if_pos goesOn,
    List.takeWhile_append_of_pos (p := fun token => (additive? token).isNone) noAdditive,
    List.countP_cons_of_pos (by simp [spelled]), List.countP_append, noProduct, Nat.zero_add]

theorem accessorsIn_of_operator {operator : Operator}
    (spelled : Operator.ofToken? token = some operator) : accessorsIn (token :: tokens) = 0 := by
  simp [accessorsIn, spelled]

end Counting

/-! ## The tokens of factors and terms -/

/-- There is no operator in a factor, and it ends with an operand. -/
theorem IsFactor.no_operator {factor : Expr} (isFactor : IsFactor factor) :
    (∀ token ∈ factor.tokens, Operator.ofToken? token = none) ∧
      ∀ operand, endsOperand operand factor.tokens = true := by
  cases isFactor with
  | literal literal =>
      have kind := kind_ne_symbol_of_isLiteral literal
      exact ⟨by simp [Expr.tokens, ofToken?_eq_none_of_kind kind],
        by simp [Expr.tokens, endsOperand, kind]⟩
  | path path =>
      induction path with
      | reference kind =>
          exact ⟨by simp [Expr.tokens, Operator.ofToken?, kind],
            by simp [Expr.tokens, endsOperand, kind]⟩
      | access spelled _ isKey ih =>
          obtain ⟨token, tokens, kind⟩ := isKey.exists_token
          refine ⟨fun other member => ?_, by simp [Expr.tokens, tokens, endsOperand, kind]⟩
          simp only [Expr.tokens, tokens, List.mem_append, List.mem_cons, List.not_mem_nil,
            or_false] at member
          rcases member with member | rfl | rfl
          · exact ih.1 other member
          · exact ofToken?_eq_none_of_point spelled
          · exact ofToken?_eq_none_of_kind kind

/-- There is no additive operator in a term, and it ends with an operand. -/
theorem IsTerm.no_additive {term : Expr} (isTerm : IsTerm term) :
    (∀ token ∈ term.tokens, additive? token = none) ∧
      ∀ operand, endsOperand operand term.tokens = true := by
  induction isTerm with
  | factor factor =>
      obtain ⟨noOperator, ends⟩ := factor.no_operator
      exact ⟨fun token member => (ofToken?_eq_none_iff.mp (noOperator token member)).1, ends⟩
  | @product operator token left right spelled factor _ ih =>
      refine ⟨fun other member => ?_, fun operand => ?_⟩
      · rcases List.mem_append.mp member with member | member
        · exact (ofToken?_eq_none_iff.mp (factor.no_operator.1 other member)).1
        · rcases List.mem_cons.mp member with rfl | member
          · exact additive?_eq_none_of_multiplicative? spelled
          · exact ih.1 other member
      · rw [Expr.tokens, endsOperand, List.foldl_append, List.foldl_cons]
        exact ih.2 _

/-! ## Places of factors -/

/-- Tokens behind which a factor starts, with the sums in them and the products of its
term. -/
structure Before (before : List Token) (sums products : Nat) : Prop where
  sums_eq : sumsIn false before = sums
  products_eq : productsIn before = products
  no_operand : endsOperand false before = false
  no_point : ∀ last ∈ before.getLast?, last.isSymbol "." = false

namespace Before

variable {before : List Token} {sums products : Nat} {token : Token} {operator : Operator}
  {left : Expr}

theorem nil : Before [] 0 0 := ⟨rfl, rfl, rfl, nofun⟩

theorem of_operator {tokens : List Token} (spelled : Operator.ofToken? token = some operator)
    (sums_eq : sumsIn false (tokens ++ [token]) = sums)
    (products_eq : productsIn (tokens ++ [token]) = products) :
    Before (tokens ++ [token]) sums products := by
  refine ⟨sums_eq, products_eq, ?_, fun last member => ?_⟩
  · rw [endsOperand_concat, (ofToken?_eq_some_iff.mp spelled).1]
    rfl
  · rw [List.getLast?_concat] at member
    cases member
    exact isSymbol_point_of_ofToken? spelled

theorem sign (place : Before before sums products) (spelled : additive? token = some operator) :
    Before (before ++ [token]) sums 0 := by
  apply of_operator (additive?_eq_some_iff.mp spelled).1
  · rw [sumsIn_append, place.sums_eq, place.no_operand]
    rfl
  · exact productsIn_concat_of_additive (by simp [spelled])

theorem sum (place : Before before sums products) (term : IsTerm left)
    (spelled : additive? token = some operator) :
    Before (before ++ (left.tokens ++ [token])) (sums + 1) 0 := by
  obtain ⟨noAdditive, ends⟩ := term.no_additive
  rw [← List.append_assoc]
  apply of_operator (additive?_eq_some_iff.mp spelled).1
  · rw [List.append_assoc, sumsIn_append, sumsIn_append, place.sums_eq,
      sumsIn_eq_zero noAdditive, ends]
    simp [sumsIn, spelled]
  · exact productsIn_concat_of_additive (by simp [spelled])

theorem product (place : Before before sums products) (factor : IsFactor left)
    (spelled : multiplicative? token = some operator) :
    Before (before ++ (left.tokens ++ [token])) sums (products + 1) := by
  obtain ⟨noOperator, -⟩ := factor.no_operator
  have noAdditive : ∀ other ∈ left.tokens ++ [token], additive? other = none := by
    intro other member
    rcases List.mem_append.mp member with member | member
    · exact (ofToken?_eq_none_iff.mp (noOperator other member)).1
    · rw [List.mem_singleton.mp member]
      exact additive?_eq_none_of_multiplicative? spelled
  have found := (multiplicative?_eq_some_iff.mp spelled).1
  have products_eq := productsIn_append_concat before noOperator spelled
  rw [place.products_eq] at products_eq
  have sums_eq : sumsIn false (before ++ (left.tokens ++ [token])) = sums := by
    rw [sumsIn_append, place.sums_eq, sumsIn_eq_zero noAdditive, Nat.add_zero]
  rw [← List.append_assoc] at products_eq sums_eq ⊢
  exact of_operator found sums_eq products_eq

end Before

/-- Every factor among tokens that stand between others lies within a number of levels. -/
def FactorsWithin (levels : Nat) (before tokens after : List Token) : Prop :=
  ∀ left factor right, tokens = left ++ factor :: right → startsFactor factor = true →
    (∀ last ∈ (before ++ left).getLast?, last.isSymbol "." = false) →
    levelsAt (before ++ left) (right ++ after) ≤ levels

section FactorsWithin

variable {levels sums products : Nat} {before after first second : List Token} {token : Token}
  {expr : Expr}

theorem factorsWithin_nil : FactorsWithin levels before [] after := by
  intro left factor right split
  simp at split

/-- A token that starts no factor divides the factors into those before it and those
behind it. -/
theorem factorsWithin_append_iff (starts : startsFactor token = false) :
    FactorsWithin levels before (first ++ token :: second) after ↔
      FactorsWithin levels before first (token :: second ++ after) ∧
        FactorsWithin levels (before ++ (first ++ [token])) second after := by
  refine ⟨fun within => ⟨?_, ?_⟩, fun parts => ?_⟩
  · intro left factor right split start noPoint
    have here := within left factor (right ++ token :: second) (by simp [split]) start noPoint
    rwa [List.append_assoc] at here
  · intro left factor right split start noPoint
    have here := within (first ++ token :: left) factor right (by simp [split]) start
    simp only [List.append_assoc, List.cons_append, List.nil_append] at here noPoint ⊢
    exact here noPoint
  · obtain ⟨inFirst, inSecond⟩ := parts
    intro left factor right split start noPoint
    -- The factor is not the dividing token, so it lies on one side of it.
    rcases List.append_eq_append_iff.mp split with ⟨more, rfl, behind⟩ | ⟨more, rfl, behind⟩
    · rcases List.cons_eq_append_iff.mp behind with ⟨-, same⟩ | ⟨more, rfl, rfl⟩
      · cases same
        rw [start] at starts
        cases starts
      · have here := inSecond more factor right rfl start
        simp only [List.append_assoc, List.cons_append, List.nil_append] at here noPoint ⊢
        exact here noPoint
    · rcases List.cons_eq_append_iff.mp behind with ⟨-, same⟩ | ⟨more, rfl, rfl⟩
      · cases same
        rw [start] at starts
        cases starts
      · have here := inFirst left factor more rfl start noPoint
        rwa [List.append_assoc]

theorem factorsWithin_singleton_iff (place : Before before sums products)
    (start : startsFactor token = true) :
    FactorsWithin levels before [token] after ↔
      (sums + 1) + (products + 1) + accessorsIn after ≤ levels := by
  rw [← place.sums_eq, ← place.products_eq]
  refine ⟨?_, ?_⟩
  · intro within
    have here := within [] token [] rfl start
    rw [List.append_nil] at here
    exact here place.no_point
  · intro fits left factor right split _ _
    rcases List.cons_eq_append_iff.mp split with ⟨rfl, same⟩ | ⟨more, rfl, behind⟩
    · cases same
      rwa [List.append_nil]
    · simp at behind

theorem factorsWithin_key (spelled : token.isSymbol "." = true) {key : Token} :
    FactorsWithin levels (before ++ [token]) [key] after := by
  intro left factor right split _ noPoint
  rcases List.cons_eq_append_iff.mp split with ⟨rfl, -⟩ | ⟨more, rfl, behind⟩
  · rw [List.append_nil] at noPoint
    rw [noPoint token List.getLast?_concat] at spelled
    cases spelled
  · simp at behind

theorem accessorsIn_accessor {key : Token} (spelled : token.isSymbol "." = true)
    (kind : key.kind ≠ .symbol) :
    accessorsIn (token :: key :: after) = accessorsIn after + 1 := by
  have noPoint : key.isSymbol "." = false := by simp [Token.isSymbol, kind]
  simp [accessorsIn, ofToken?_eq_none_of_point spelled, ofToken?_eq_none_of_kind kind, spelled,
    noPoint]

/-- A path has one factor: it starts with its reference, and its keys stand behind points. -/
theorem IsPath.factorsWithin_iff (path : IsPath expr) (place : Before before sums products) :
    FactorsWithin levels before expr.tokens after ↔
      (sums + 1) + (products + 1) + (expr.accessorCount + accessorsIn after) ≤ levels := by
  induction path generalizing after with
  | reference kind =>
      rw [Expr.tokens, factorsWithin_singleton_iff place (by simp [startsFactor, kind])]
      simp only [Expr.accessorCount, Nat.zero_add]
  | @access point object key spelled _ isKey ih =>
      obtain ⟨token, tokens, kind⟩ := isKey.exists_token
      have inKey : FactorsWithin levels (before ++ (object.tokens ++ [point])) [token] after := by
        rw [← List.append_assoc]
        exact factorsWithin_key spelled
      rw [Expr.tokens, tokens, factorsWithin_append_iff (startsFactor_of_isSymbol spelled), ih,
        List.cons_append, List.singleton_append, accessorsIn_accessor spelled kind,
        Expr.accessorCount, and_iff_left inKey]
      omega

theorem IsFactor.factorsWithin_iff (factor : IsFactor expr)
    (place : Before before sums products) :
    FactorsWithin levels before expr.tokens after ↔
      (sums + 1) + (products + 1) + (expr.accessorCount + accessorsIn after) ≤ levels := by
  cases factor with
  | literal literal =>
      rw [Expr.tokens, factorsWithin_singleton_iff place (by simp [startsFactor, literal])]
      simp only [Expr.accessorCount, Nat.zero_add]
  | path path => exact path.factorsWithin_iff place

/-- The factors of a term go on with the products before it. -/
theorem IsTerm.factorsWithin_iff (term : IsTerm expr) (place : Before before sums products)
    (ends : accessorsIn after = 0) :
    FactorsWithin levels before expr.tokens after ↔
      ∀ (j : Nat) (factor : Expr), expr.factors[j]? = some factor →
        (sums + 1) + (products + j + 1) + factor.accessorCount ≤ levels := by
  induction term generalizing before products with
  | factor factor =>
      rw [factor.factorsWithin_iff place, ends, factor.factors, forall_getElem?_singleton_iff]
      rfl
  | @product operator token left right spelled factor _ ih =>
      have found := (multiplicative?_eq_some_iff.mp spelled).1
      have regroup : ∀ j, products + 1 + j + 1 = products + (j + 1) + 1 := fun j => by omega
      rw [Expr.tokens, factorsWithin_append_iff (startsFactor_of_operator found),
        factor.factorsWithin_iff place, ih (place.product factor spelled), List.cons_append,
        accessorsIn_of_operator found, Expr.factors, forall_getElem?_cons_iff]
      simp only [regroup, Nat.add_zero]

/-- Every factor of some terms lies within a number of levels, if `sums` terms stand before
them. -/
def TermsWithin (levels sums : Nat) (terms : List Expr) : Prop :=
  ∀ (i : Nat) (term : Expr), terms[i]? = some term →
    ∀ (j : Nat) (factor : Expr), term.factors[j]? = some factor →
      (sums + i + 1) + (j + 1) + factor.accessorCount ≤ levels

theorem termsWithin_cons_iff {terms : List Expr} :
    TermsWithin levels sums (expr :: terms) ↔
      (∀ (j : Nat) (factor : Expr), expr.factors[j]? = some factor →
        (sums + 1) + (j + 1) + factor.accessorCount ≤ levels) ∧
      TermsWithin levels (sums + 1) terms := by
  have regroup : ∀ i, sums + (i + 1) + 1 = sums + 1 + i + 1 := fun i => by omega
  unfold TermsWithin
  rw [forall_getElem?_cons_iff]
  simp only [regroup, Nat.add_zero]

theorem termsWithin_zero_iff : TermsWithin levels 0 expr.terms ↔ expr.Nests levels := by
  simp only [TermsWithin, Expr.Nests, Nat.zero_add]

theorem IsTerm.factorsWithin_iff_termsWithin (term : IsTerm expr)
    (place : Before before sums 0) (ends : accessorsIn after = 0) :
    FactorsWithin levels before expr.tokens after ↔ TermsWithin levels sums [expr] := by
  have none : TermsWithin levels (sums + 1) [] := nofun
  rw [term.factorsWithin_iff place ends, termsWithin_cons_iff, and_iff_left none]
  simp only [Nat.zero_add]

/-- A sum has the factors of its first term and those of the formula behind its operator. -/
theorem factorsWithin_sum_iff {operator : Operator} {left right : Expr}
    (spelled : additive? token = some operator) (term : IsTerm left)
    (place : Before before sums 0)
    (further : ∀ {before : List Token} {sums : Nat}, Before before sums 0 →
      (FactorsWithin levels before right.tokens [] ↔ TermsWithin levels sums right.terms)) :
    FactorsWithin levels before (Expr.operation operator token left right).tokens [] ↔
      TermsWithin levels sums (Expr.operation operator token left right).terms := by
  obtain ⟨found, additive⟩ := additive?_eq_some_iff.mp spelled
  have ends : accessorsIn (token :: right.tokens ++ []) = 0 := accessorsIn_of_operator found
  rw [Expr.tokens, factorsWithin_append_iff (startsFactor_of_operator found),
    term.factorsWithin_iff place ends, further (place.sum term spelled), Expr.terms,
    if_pos additive, termsWithin_cons_iff]
  simp only [Nat.zero_add]

theorem factorsWithin_negate_iff {sign : Token} (signed : sign.isSymbol "-" = true) :
    FactorsWithin levels before (Expr.negate sign expr).tokens [] ↔
      FactorsWithin levels (before ++ [sign]) expr.tokens [] := by
  have divided : FactorsWithin levels before ([] ++ sign :: expr.tokens) [] ↔ _ :=
    factorsWithin_append_iff (startsFactor_of_isSymbol signed)
  exact divided.trans (and_iff_right factorsWithin_nil)

/-- The terms of a formula go on with the sums before it. -/
theorem IsFormula.factorsWithin_iff (formula : IsFormula expr) (place : Before before sums 0) :
    FactorsWithin levels before expr.tokens [] ↔ TermsWithin levels sums expr.terms := by
  induction formula generalizing before sums with
  | term term =>
      rw [term.factorsWithin_iff_termsWithin place rfl, term.terms]
  | sum spelled term _ ih => exact factorsWithin_sum_iff spelled term place ih
  | negatedTerm signed term =>
      have behind := place.sign (additive?_eq_some_of_sign signed)
      rw [factorsWithin_negate_iff signed, term.factorsWithin_iff_termsWithin behind rfl,
        Expr.terms, term.terms]
  | negatedSum signed spelled term _ ih =>
      have behind := place.sign (additive?_eq_some_of_sign signed)
      rw [factorsWithin_negate_iff signed]
      exact factorsWithin_sum_iff spelled term behind ih

end FactorsWithin

/-- **Nesting can be told from the tokens.** A formula nests within a number of levels
exactly if each token that starts a factor does so between the tokens around it. -/
theorem IsFormula.withinLevels_iff {levels : Nat} {expr : Expr} (formula : IsFormula expr) :
    WithinLevels levels expr.tokens ↔ expr.Nests levels := by
  rw [← termsWithin_zero_iff, ← formula.factorsWithin_iff Before.nil]
  simp only [WithinLevels, FactorsWithin, List.nil_append, List.append_nil]

end Grammar

end DataFormula
