import DataFormula.Proofs.Grammar.Shape

/-!
# Sentences of the written grammar

The grammar of formulas as its users read it, with a repetition behind the term of an
expression (`Grammar.Rule.pattern`). That grammar is ambiguous: behind `1+2` the rest of
`1+2+3` may be repeated or belong to the inner expression. Trees know only the second
reading, and every derivation can be regrouped into it (`IsFormula.exists_append`), so the
sentences are the tokens of the trees (`Grammar.derives_expression_iff`).
-/

namespace DataFormula

namespace Grammar

/-! ## The written grammar -/

/-- The name of a rule. -/
inductive Rule where
  | literal
  | boolean
  | factor
  | term
  | reference
  | listAccessor
  | expression
deriving DecidableEq

/-- What may stand on the right side of a rule. -/
inductive Pattern where
  /-- A token of a class. -/
  | kind (kind : TokenKind)
  /-- A token of a class that says a given text. -/
  | word (kind : TokenKind) (data : String)
  /-- Whatever a rule describes. -/
  | rule (rule : Rule)
  | sequence (first second : Pattern)
  | choice (first second : Pattern)
  | optional (pattern : Pattern)
  | repeated (pattern : Pattern)
deriving DecidableEq

/-- A punctuation character. -/
def Pattern.symbol (text : String) : Pattern := .word .symbol text

/-- The right side of a rule. A `$` and the name behind it are one token. -/
def Rule.pattern : Rule → Pattern
  | literal =>
    .choice (.kind .integer) (.choice (.kind .float) (.choice (.kind .string) (.rule boolean)))
  | boolean => .choice (.word .identifier "true") (.word .identifier "false")
  | factor => .choice (.rule literal) (.rule reference)
  | term =>
    .sequence (.rule factor) (.optional (.sequence
      (.choice (.symbol "*") (.choice (.symbol "/") (.symbol "%"))) (.rule term)))
  | reference => .sequence (.kind .reference) (.optional (.rule listAccessor))
  | listAccessor =>
    .sequence (.symbol ".") (.sequence
      (.choice (.kind .integer) (.choice (.kind .string)
        (.choice (.kind .identifier) (.rule reference))))
      (.optional (.rule listAccessor)))
  | expression =>
    .sequence (.optional (.symbol "-")) (.sequence (.rule term)
      (.repeated (.sequence (.choice (.symbol "+") (.symbol "-")) (.rule expression))))

/-- The tokens that a pattern describes. -/
inductive Derives : Pattern → List Token → Prop where
  | kind {token : Token} {kind : TokenKind} (same : token.kind = kind) :
      Derives (.kind kind) [token]
  | word {token : Token} {kind : TokenKind} {data : String} (same : token.kind = kind)
      (spelled : token.data = data) : Derives (.word kind data) [token]
  | rule {rule : Rule} {tokens : List Token} (inside : Derives rule.pattern tokens) :
      Derives (.rule rule) tokens
  | sequence {first second : Pattern} {before after : List Token} (left : Derives first before)
      (right : Derives second after) : Derives (.sequence first second) (before ++ after)
  | first {first second : Pattern} {tokens : List Token} (inside : Derives first tokens) :
      Derives (.choice first second) tokens
  | second {first second : Pattern} {tokens : List Token} (inside : Derives second tokens) :
      Derives (.choice first second) tokens
  | absent {pattern : Pattern} : Derives (.optional pattern) []
  | present {pattern : Pattern} {tokens : List Token} (inside : Derives pattern tokens) :
      Derives (.optional pattern) tokens
  | stop {pattern : Pattern} : Derives (.repeated pattern) []
  | again {pattern : Pattern} {before after : List Token} (once : Derives pattern before)
      (others : Derives (.repeated pattern) after) :
      Derives (.repeated pattern) (before ++ after)

/-! ## Trees of derived tokens -/

/-- The tokens are those of a tree of some shape. -/
def TokensOf (shape : Expr → Prop) (tokens : List Token) : Prop :=
  ∃ expr, shape expr ∧ expr.tokens = tokens

/-- A formula goes on behind an additive operator, at its innermost right end. -/
theorem IsFormula.exists_append {left right : Expr} {token : Token} {operator : Operator}
    (formula : IsFormula left) (spelled : additive? token = some operator)
    (further : IsFormula right) : TokensOf IsFormula (left.tokens ++ token :: right.tokens) := by
  induction formula with
  | term term => exact ⟨_, .sum spelled term further, rfl⟩
  | sum inner term _ ih =>
      obtain ⟨whole, formula, tokens⟩ := ih
      exact ⟨_, .sum inner term formula, by simp [Expr.tokens, tokens]⟩
  | negatedTerm signed term => exact ⟨_, .negatedSum signed spelled term further, rfl⟩
  | negatedSum signed inner term _ ih =>
      obtain ⟨whole, formula, tokens⟩ := ih
      exact ⟨_, .negatedSum signed inner term formula, by simp [Expr.tokens, tokens]⟩

/-- A path goes on behind a point with another one, whose reference becomes a key. -/
theorem IsPath.exists_append {object path : Expr} {point : Token} (isPath : IsPath path)
    (isObject : IsPath object) (spelled : point.isSymbol "." = true) :
    TokensOf IsPath (object.tokens ++ point :: path.tokens) := by
  induction isPath with
  | reference kind => exact ⟨_, .access spelled isObject (.reference kind), rfl⟩
  | access inner _ isKey ih =>
      obtain ⟨whole, isWhole, tokens⟩ := ih
      exact ⟨_, .access inner isWhole isKey, by simp [Expr.tokens, tokens]⟩

/-- What the tokens of a rule are in terms of trees. Those of accessors make a path longer. -/
def Rule.Language : Rule → List Token → Prop
  | literal, tokens => ∃ token, tokens = [token] ∧ isLiteral token = true
  | boolean, tokens => ∃ token, tokens = [token] ∧ token.isBoolean = true
  | factor, tokens => TokensOf IsFactor tokens
  | term, tokens => TokensOf IsTerm tokens
  | reference, tokens => TokensOf IsPath tokens
  | listAccessor, tokens => ∀ object, IsPath object → TokensOf IsPath (object.tokens ++ tokens)
  | expression, tokens => TokensOf IsFormula tokens

/-- What the tokens of a pattern are, once it is known for the rules. -/
def Pattern.Language : Pattern → List Token → Prop
  | kind expected, tokens => ∃ token, tokens = [token] ∧ token.kind = expected
  | word expected data, tokens =>
    ∃ token, tokens = [token] ∧ token.kind = expected ∧ token.data = data
  | rule name, tokens => name.Language tokens
  | sequence first second, tokens =>
    ∃ before after, tokens = before ++ after ∧ first.Language before ∧ second.Language after
  | choice first second, tokens => first.Language tokens ∨ second.Language tokens
  | optional pattern, tokens => tokens = [] ∨ pattern.Language tokens
  | repeated pattern, tokens =>
    ∃ parts : List (List Token), tokens = parts.flatten ∧ ∀ part ∈ parts, pattern.Language part

theorem language_symbol_iff {text : String} {tokens : List Token} :
    (Pattern.symbol text).Language tokens ↔
      ∃ token, tokens = [token] ∧ token.isSymbol text = true := by
  simp only [Pattern.symbol, Pattern.Language, isSymbol_iff]

theorem multiplicative_of_language {tokens : List Token}
    (inside : (Pattern.choice (.symbol "*") (.choice (.symbol "/") (.symbol "%"))).Language
      tokens) : ∃ token operator, tokens = [token] ∧ multiplicative? token = some operator := by
  rcases inside with ⟨token, rfl, kind, data⟩ | ⟨token, rfl, kind, data⟩ | ⟨token, rfl, kind, data⟩
  · exact ⟨token, .multiply, rfl,
      multiplicative?_eq_some_iff.mpr ⟨ofToken?_eq_some_iff.mpr ⟨kind, data⟩, rfl⟩⟩
  · exact ⟨token, .divide, rfl,
      multiplicative?_eq_some_iff.mpr ⟨ofToken?_eq_some_iff.mpr ⟨kind, data⟩, rfl⟩⟩
  · exact ⟨token, .modulo, rfl,
      multiplicative?_eq_some_iff.mpr ⟨ofToken?_eq_some_iff.mpr ⟨kind, data⟩, rfl⟩⟩

theorem additive_of_language {tokens : List Token}
    (inside : (Pattern.choice (.symbol "+") (.symbol "-")).Language tokens) :
    ∃ token operator, tokens = [token] ∧ additive? token = some operator := by
  rcases inside with ⟨token, rfl, kind, data⟩ | ⟨token, rfl, kind, data⟩
  · exact ⟨token, .add, rfl,
      additive?_eq_some_iff.mpr ⟨ofToken?_eq_some_iff.mpr ⟨kind, data⟩, rfl⟩⟩
  · exact ⟨token, .subtract, rfl,
      additive?_eq_some_iff.mpr ⟨ofToken?_eq_some_iff.mpr ⟨kind, data⟩, rfl⟩⟩

/-- One accessor makes a path longer; if its key is a reference with accessors of its own,
so do they. -/
theorem exists_access {object : Expr} (isObject : IsPath object) {before tokens : List Token}
    (point : (Pattern.symbol ".").Language before)
    (key : (Pattern.choice (.kind .integer) (.choice (.kind .string)
      (.choice (.kind .identifier) (.rule .reference)))).Language tokens) :
    TokensOf IsPath (object.tokens ++ (before ++ tokens)) := by
  obtain ⟨point, rfl, spelled⟩ := language_symbol_iff.mp point
  rcases key with ⟨token, rfl, kind⟩ | ⟨token, rfl, kind⟩ | ⟨token, rfl, kind⟩ | path
  · exact ⟨_, .access spelled isObject (.value (.inl kind)), rfl⟩
  · exact ⟨_, .access spelled isObject (.value (.inr kind)), rfl⟩
  · exact ⟨_, .access spelled isObject (.identifier kind), rfl⟩
  · obtain ⟨path, isPath, rfl⟩ := path
    exact isPath.exists_append isObject spelled

/-- What is repeated behind a formula belongs to it. -/
theorem exists_repeated {tokens : List Token} {parts : List (List Token)}
    (start : TokensOf IsFormula tokens)
    (further : ∀ part ∈ parts, (Pattern.sequence (.choice (.symbol "+") (.symbol "-"))
      (.rule .expression)).Language part) : TokensOf IsFormula (tokens ++ parts.flatten) := by
  induction parts generalizing tokens with
  | nil => rwa [List.flatten_nil, List.append_nil]
  | cons part parts ih =>
      obtain ⟨here, others⟩ := List.forall_mem_cons.mp further
      obtain ⟨_, _, rfl, sign, right, isRight, rfl⟩ := here
      obtain ⟨token, operator, rfl, spelled⟩ := additive_of_language sign
      obtain ⟨left, isLeft, rfl⟩ := start
      rw [List.flatten_cons, ← List.append_assoc]
      exact ih (isLeft.exists_append spelled isRight) others

/-- The right sides of the rules describe no more than the rules. -/
theorem Rule.language_of_pattern {rule : Rule} {tokens : List Token}
    (inside : rule.pattern.Language tokens) : rule.Language tokens := by
  cases rule with
  | literal =>
      rcases inside with ⟨token, rfl, kind⟩ | ⟨token, rfl, kind⟩ | ⟨token, rfl, kind⟩ | boolean
      · exact ⟨token, rfl, by simp [isLiteral, kind]⟩
      · exact ⟨token, rfl, by simp [isLiteral, kind]⟩
      · exact ⟨token, rfl, by simp [isLiteral, kind]⟩
      · obtain ⟨token, rfl, isBoolean⟩ := boolean
        have kind : token.kind = .identifier := by
          simp only [Token.isBoolean, Bool.and_eq_true, beq_iff_eq] at isBoolean
          exact isBoolean.1
        exact ⟨token, rfl, by simp [isLiteral, kind, isBoolean]⟩
  | boolean =>
      rcases inside with ⟨token, rfl, kind, data⟩ | ⟨token, rfl, kind, data⟩
      · exact ⟨token, rfl, by simp [Token.isBoolean, kind, data]⟩
      · exact ⟨token, rfl, by simp [Token.isBoolean, kind, data]⟩
  | factor =>
      rcases inside with ⟨token, rfl, isLiteral⟩ | ⟨path, isPath, tokens⟩
      · exact ⟨_, .literal isLiteral, rfl⟩
      · exact ⟨path, .path isPath, tokens⟩
  | term =>
      obtain ⟨_, _, rfl, ⟨left, isFactor, rfl⟩, alone | product⟩ := inside
      · subst alone
        exact ⟨left, .factor isFactor, by simp⟩
      · obtain ⟨_, _, rfl, operator, right, isTerm, rfl⟩ := product
        obtain ⟨token, operator, rfl, spelled⟩ := multiplicative_of_language operator
        exact ⟨_, .product spelled isFactor isTerm, rfl⟩
  | reference =>
      obtain ⟨_, _, rfl, ⟨token, rfl, kind⟩, alone | accessors⟩ := inside
      · subst alone
        exact ⟨_, .reference kind, rfl⟩
      · exact accessors _ (.reference kind)
  | listAccessor =>
      -- Accessors are derived from left to right, but the last one is outermost in the tree:
      -- the path before them grows while they are read.
      intro object isObject
      obtain ⟨_, _, rfl, point, _, _, rfl, key, alone | accessors⟩ := inside
      · subst alone
        rw [List.append_nil]
        exact exists_access isObject point key
      · obtain ⟨longer, isLonger, tokens⟩ := exists_access isObject point key
        have whole := accessors longer isLonger
        rwa [tokens, List.append_assoc, List.append_assoc] at whole
  | expression =>
      obtain ⟨_, _, rfl, sign, _, _, rfl, ⟨term, isTerm, rfl⟩, parts, rfl, further⟩ := inside
      rw [← List.append_assoc]
      apply exists_repeated _ further
      rcases sign with rfl | sign
      · exact ⟨term, .term isTerm, rfl⟩
      · obtain ⟨sign, rfl, signed⟩ := language_symbol_iff.mp sign
        exact ⟨_, .negatedTerm signed isTerm, rfl⟩

theorem language_of_derives {pattern : Pattern} {tokens : List Token}
    (derives : Derives pattern tokens) : pattern.Language tokens := by
  induction derives with
  | kind same => exact ⟨_, rfl, same⟩
  | word same spelled => exact ⟨_, rfl, same, spelled⟩
  | rule _ ih => exact Rule.language_of_pattern ih
  | sequence _ _ left right => exact ⟨_, _, rfl, left, right⟩
  | first _ ih => exact .inl ih
  | second _ ih => exact .inr ih
  | absent => exact .inl rfl
  | present _ ih => exact .inr ih
  | stop => exact ⟨[], rfl, nofun⟩
  | again _ _ once others =>
      obtain ⟨parts, rfl, each⟩ := others
      exact ⟨_ :: parts, rfl, List.forall_mem_cons.mpr ⟨once, each⟩⟩

/-! ## Derivations of trees -/

theorem derives_symbol {token : Token} {text : String} (spelled : token.isSymbol text = true) :
    Derives (.symbol text) [token] := by
  obtain ⟨kind, data⟩ := isSymbol_iff.mp spelled
  exact .word kind data

theorem derives_additive {token : Token} {operator : Operator}
    (spelled : additive? token = some operator) :
    Derives (.choice (.symbol "+") (.symbol "-")) [token] := by
  obtain ⟨found, additive⟩ := additive?_eq_some_iff.mp spelled
  obtain ⟨kind, data⟩ := ofToken?_eq_some_iff.mp found
  cases operator with
  | add => exact .first (.word kind data)
  | subtract => exact .second (.word kind data)
  | _ => cases additive

theorem derives_multiplicative {token : Token} {operator : Operator}
    (spelled : multiplicative? token = some operator) :
    Derives (.choice (.symbol "*") (.choice (.symbol "/") (.symbol "%"))) [token] := by
  obtain ⟨found, multiplicative⟩ := multiplicative?_eq_some_iff.mp spelled
  obtain ⟨kind, data⟩ := ofToken?_eq_some_iff.mp found
  cases operator with
  | multiply => exact .first (.word kind data)
  | divide => exact .second (.first (.word kind data))
  | modulo => exact .second (.second (.word kind data))
  | _ => cases multiplicative

theorem derives_literal {token : Token} (literal : isLiteral token = true) :
    Derives (.rule .literal) [token] := by
  apply Derives.rule
  unfold isLiteral at literal
  split at literal
  · rename_i kind
    exact .first (.kind kind)
  · rename_i kind
    exact .second (.first (.kind kind))
  · rename_i kind
    exact .second (.second (.first (.kind kind)))
  · rename_i kind
    simp only [Token.isBoolean, kind, beq_self_eq_true, Bool.true_and, Bool.or_eq_true,
      beq_iff_eq] at literal
    refine .second (.second (.second (.rule ?_)))
    rcases literal with data | data
    · exact .first (.word kind data)
    · exact .second (.word kind data)
  · cases literal
  · cases literal

theorem IsPath.derives {path : Expr} (isPath : IsPath path) {tokens : List Token}
    (further : Derives (.optional (.rule .listAccessor)) tokens) :
    Derives (.rule .reference) (path.tokens ++ tokens) := by
  -- The accessors behind the path grow while its own are taken off from the outside.
  induction isPath generalizing tokens with
  | reference kind => exact .rule (.sequence (.kind kind) further)
  | @access point object key spelled _ isKey ih =>
      have derivesKey : Derives (.choice (.kind .integer) (.choice (.kind .string)
          (.choice (.kind .identifier) (.rule .reference)))) key.tokens := by
        cases isKey with
        | value kind =>
            rcases kind with kind | kind
            · exact .first (.kind kind)
            · exact .second (.first (.kind kind))
        | identifier kind => exact .second (.second (.first (.kind kind)))
        | reference kind =>
            exact .second (.second (.second (.rule (.sequence (.kind kind) .absent))))
      have accessor : Derives (.rule .listAccessor) ([point] ++ (key.tokens ++ tokens)) :=
        .rule (.sequence (derives_symbol spelled) (.sequence derivesKey further))
      have whole := ih (.present accessor)
      simpa only [Expr.tokens, List.append_assoc, List.cons_append, List.nil_append] using whole

theorem IsFactor.derives {factor : Expr} (isFactor : IsFactor factor) :
    Derives (.rule .factor) factor.tokens := by
  cases isFactor with
  | literal isLiteral => exact .rule (.first (derives_literal isLiteral))
  | path isPath =>
      have whole := isPath.derives .absent
      rw [List.append_nil] at whole
      exact .rule (.second whole)

theorem IsTerm.derives {term : Expr} (isTerm : IsTerm term) :
    Derives (.rule .term) term.tokens := by
  induction isTerm with
  | factor isFactor =>
      have whole : Derives Rule.term.pattern (_ ++ []) := .sequence isFactor.derives .absent
      rw [List.append_nil] at whole
      exact .rule whole
  | product spelled isFactor _ ih =>
      exact .rule (.sequence isFactor.derives
        (.present (.sequence (derives_multiplicative spelled) ih)))

/-- An expression is derived from its sign, its first term and what is repeated behind it. -/
theorem derives_expression {sign term others : List Token}
    (signed : Derives (.optional (.symbol "-")) sign) (isTerm : Derives (.rule .term) term)
    (further : Derives (.repeated (.sequence (.choice (.symbol "+") (.symbol "-"))
      (.rule .expression))) others) :
    Derives (.rule .expression) (sign ++ (term ++ others)) :=
  .rule (.sequence signed (.sequence isTerm further))

theorem derives_once {token : Token} {operator : Operator} {tokens : List Token}
    (spelled : additive? token = some operator) (inside : Derives (.rule .expression) tokens) :
    Derives (.repeated (.sequence (.choice (.symbol "+") (.symbol "-")) (.rule .expression)))
      (token :: tokens) := by
  have whole := Derives.again (.sequence (derives_additive spelled) inside) .stop
  rwa [List.append_nil] at whole

theorem IsFormula.derives {expr : Expr} (formula : IsFormula expr) :
    Derives (.rule .expression) expr.tokens := by
  induction formula with
  | term isTerm =>
      have whole := derives_expression .absent isTerm.derives .stop
      rwa [List.append_nil] at whole
  | sum spelled isTerm _ ih =>
      exact derives_expression .absent isTerm.derives (derives_once spelled ih)
  | negatedTerm signed isTerm =>
      have whole := derives_expression (.present (derives_symbol signed)) isTerm.derives .stop
      rwa [List.append_nil] at whole
  | negatedSum signed spelled isTerm _ ih =>
      exact derives_expression (.present (derives_symbol signed)) isTerm.derives
        (derives_once spelled ih)

/-- **The sentences are the tokens of the trees.** However often the written grammar repeats
its sums, and however deep it nests them, there is one tree that leans to the right. -/
theorem derives_expression_iff {tokens : List Token} :
    Derives (.rule .expression) tokens ↔ ∃ expr, IsFormula expr ∧ expr.tokens = tokens := by
  refine ⟨language_of_derives, fun spelled => ?_⟩
  obtain ⟨expr, formula, rfl⟩ := spelled
  exact formula.derives

end Grammar

end DataFormula
