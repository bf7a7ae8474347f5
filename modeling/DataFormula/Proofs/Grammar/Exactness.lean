import DataFormula.Cursor
import DataFormula.Proofs.Grammar.Chain
import DataFormula.Proofs.Grammar.Shape

/-!
# What the grammar finds

Each rule finds exactly the expressions of its shape that nest within the levels
it is given, and takes as many tokens as it can: what is left does not start with
a token that would go on with the expression (`Grammar.expression_eq_found_iff`).
A rule that is absent says so from the first token alone. For a cursor this tells
exactly when `Cursor.parse` succeeds, with which formula, and where it stops
(`Cursor.parse_eq_ok_iff`).
-/

namespace DataFormula

namespace Grammar

/-! ## Accessors -/

/-- A point and the key behind it. -/
def IsAccessor (accessor : Token × Expr) : Prop :=
  accessor.1.isSymbol "." = true ∧ IsKey accessor.2

/-- An object with accessors wrapped around it, the first one innermost. -/
def attach (object : Expr) (accessors : List (Token × Expr)) : Expr :=
  accessors.foldl (fun object accessor => .access accessor.1 object accessor.2) object

/-- The tokens of accessors. -/
def accessorTokens (accessors : List (Token × Expr)) : List Token :=
  accessors.flatMap fun accessor => accessor.1 :: accessor.2.tokens

@[simp]
theorem attach_nil (object : Expr) : attach object [] = object := rfl

@[simp]
theorem attach_cons (object : Expr) (accessor : Token × Expr) (others : List (Token × Expr)) :
    attach object (accessor :: others) =
      attach (.access accessor.1 object accessor.2) others := rfl

@[simp]
theorem accessorTokens_nil : accessorTokens [] = [] := rfl

@[simp]
theorem accessorTokens_cons (accessor : Token × Expr) (others : List (Token × Expr)) :
    accessorTokens (accessor :: others) =
      accessor.1 :: accessor.2.tokens ++ accessorTokens others := rfl

theorem tokens_attach (object : Expr) (accessors : List (Token × Expr)) :
    (attach object accessors).tokens = object.tokens ++ accessorTokens accessors := by
  induction accessors generalizing object with
  | nil => simp
  | cons accessor others ih => simp [ih, Expr.tokens]

theorem accessorCount_attach (object : Expr) (accessors : List (Token × Expr)) :
    (attach object accessors).accessorCount = object.accessorCount + accessors.length := by
  induction accessors generalizing object with
  | nil => rfl
  | cons accessor others ih =>
      rw [attach_cons, ih, Expr.accessorCount, List.length_cons]
      omega

theorem IsPath.attach {object : Expr} (path : IsPath object) {accessors : List (Token × Expr)}
    (valid : ∀ accessor ∈ accessors, IsAccessor accessor) : IsPath (attach object accessors) := by
  induction accessors generalizing object with
  | nil => exact path
  | cons accessor others ih =>
      obtain ⟨spelled, isKey⟩ := valid accessor List.mem_cons_self
      exact ih (.access spelled path isKey)
        fun other member => valid other (List.mem_cons_of_mem _ member)

/-- Every path is a reference with accessors around it. -/
theorem IsPath.exists_attach {expr : Expr} (path : IsPath expr) :
    ∃ token accessors, token.kind = .reference ∧
      (∀ accessor ∈ accessors, IsAccessor accessor) ∧
        expr = Grammar.attach (.reference token) accessors := by
  induction path with
  | @reference token kind => exact ⟨token, [], kind, by simp, rfl⟩
  | @access point object key spelled _ isKey ih =>
      obtain ⟨token, accessors, kind, valid, rfl⟩ := ih
      refine ⟨token, accessors ++ [(point, key)], kind, ?_, by simp [Grammar.attach]⟩
      intro accessor member
      rcases List.mem_append.mp member with old | new
      · exact valid accessor old
      · rw [List.mem_singleton] at new
        subst new
        exact ⟨spelled, isKey⟩

/-- Accessors are taken as long as there is a point, at most one for each level. -/
theorem accessors_eq_found_iff {levels : Nat} {object expr : Expr} {tokens rest : List Token} :
    accessors levels object tokens = .found expr rest ↔
      ∃ taken, (∀ accessor ∈ taken, IsAccessor accessor) ∧ taken.length ≤ levels ∧
        expr = attach object taken ∧ tokens = accessorTokens taken ++ rest ∧
          ∀ next ∈ rest.head?, next.isSymbol "." = false := by
  refine ⟨?_, ?_⟩
  · intro found
    fun_induction accessors levels object tokens with
    | case1 levels object =>
        cases found
        exact ⟨[], by simp⟩
    | case2 => cases found
    | case3 object point rest notPoint =>
        cases found
        exact ⟨[], by simpa using notPoint⟩
    | case4 => cases found
    | case5 levels object point spelled token rest key isKey ih =>
        obtain ⟨taken, valid, fits, rfl, rfl, stops⟩ := ih found
        obtain ⟨isKey, keyTokens⟩ := key?_eq_some_iff.mp isKey
        refine ⟨(point, key) :: taken, ?_, by simpa using fits, rfl, by simp [keyTokens], stops⟩
        exact List.forall_mem_cons.mpr ⟨⟨spelled, isKey⟩, valid⟩
    | case6 => cases found
    | case7 levels object point rest notPoint =>
        cases found
        exact ⟨[], by simpa using notPoint⟩
  · intro described
    obtain ⟨taken, valid, fits, rfl, rfl, stops⟩ := described
    induction taken generalizing levels object with
    | nil =>
        cases rest with
        | nil => simp [accessors]
        | cons next rest =>
            have notPoint : next.isSymbol "." = false := stops next rfl
            cases levels <;> simp [accessors, notPoint]
    | cons accessor taken ih =>
        obtain ⟨⟨spelled, isKey⟩, valid⟩ := List.forall_mem_cons.mp valid
        obtain ⟨token, keyTokens, -⟩ := isKey.exists_token
        cases levels with
        | zero => simp at fits
        | succ levels =>
            have found := key?_eq_some_iff.mpr ⟨isKey, keyTokens⟩
            simp only [accessorTokens_cons, keyTokens, List.cons_append, List.nil_append,
              accessors, spelled, if_true, found]
            exact ih valid (Nat.le_of_succ_le_succ fits)

theorem accessors_ne_absent {levels : Nat} {object : Expr} {tokens : List Token} :
    accessors levels object tokens ≠ .absent := by
  fun_induction accessors levels object tokens <;> simp_all

/-! ## Factors -/

theorem literal_ne_failed (tokens : List Token) (error : SyntaxError) (rest : List Token) :
    literal tokens ≠ .failed error rest := by
  intro failed
  unfold literal at failed
  split at failed
  · cases failed
  · split at failed <;> cases failed

theorem literal_eq_found_iff {tokens rest : List Token} {expr : Expr} :
    literal tokens = .found expr rest ↔
      ∃ token, isLiteral token = true ∧ expr = .value token ∧ tokens = token :: rest := by
  cases tokens with
  | nil => simp [literal]
  | cons token others =>
      by_cases isLiteral : isLiteral token = true
      · simp only [literal, isLiteral, if_true, Outcome.found.injEq, List.cons.injEq]
        refine ⟨?_, ?_⟩
        · intro given
          obtain ⟨rfl, rfl⟩ := given
          exact ⟨token, isLiteral, rfl, rfl, rfl⟩
        · intro described
          obtain ⟨_, _, rfl, rfl, rfl⟩ := described
          exact ⟨rfl, rfl⟩
      · simp only [literal, isLiteral, Bool.false_eq_true, if_false, reduceCtorEq, false_iff]
        rintro ⟨_, other, _, same⟩
        cases same
        exact isLiteral other

theorem literal_eq_absent_iff {tokens : List Token} :
    literal tokens = .absent ↔ ∀ first ∈ tokens.head?, isLiteral first = false := by
  cases tokens with
  | nil => simp [literal]
  | cons token rest => simp [literal]

/-- What is left behind a path does not start with a point. -/
def PathStops (expr : Expr) (rest : List Token) : Prop :=
  ∀ next ∈ rest.head?, next.isSymbol "." = true → ¬ IsPath expr.lastFactor

theorem reference_eq_found_iff {levels : Nat} {tokens rest : List Token} {expr : Expr} :
    reference levels tokens = .found expr rest ↔
      IsPath expr ∧ expr.accessorCount ≤ levels ∧ tokens = expr.tokens ++ rest ∧
        PathStops expr rest := by
  refine ⟨?_, ?_⟩
  · intro found
    cases tokens with
    | nil => cases found
    | cons token others =>
        by_cases kind : token.kind = .reference
        · simp only [reference, kind, if_true] at found
          obtain ⟨taken, valid, fits, rfl, rfl, stops⟩ := accessors_eq_found_iff.mp found
          refine ⟨(IsPath.reference kind).attach valid, ?_, ?_, fun next member point => ?_⟩
          · simpa [accessorCount_attach, Expr.accessorCount] using fits
          · simp [tokens_attach, Expr.tokens]
          · rw [stops next member] at point
            cases point
        · simp [reference, kind] at found
  · intro described
    obtain ⟨path, fits, rfl, stops⟩ := described
    obtain ⟨token, taken, kind, valid, rfl⟩ := path.exists_attach
    simp only [tokens_attach, Expr.tokens, List.cons_append, List.nil_append, reference, kind,
      if_true]
    refine accessors_eq_found_iff.mpr ⟨taken, valid, ?_, rfl, rfl, fun next member => ?_⟩
    · simpa [accessorCount_attach, Expr.accessorCount] using fits
    · rw [Bool.eq_false_iff]
      intro point
      rw [PathStops, (IsFactor.path path).lastFactor] at stops
      exact stops next member point path

theorem reference_eq_absent_iff {levels : Nat} {tokens : List Token} :
    reference levels tokens = .absent ↔ ∀ first ∈ tokens.head?, first.kind ≠ .reference := by
  cases tokens with
  | nil => simp [reference]
  | cons token rest =>
      by_cases kind : token.kind = .reference <;> simp [reference, kind, accessors_ne_absent]

/-- A factor takes all accessors there are, and no level if it is a literal. -/
theorem factor_eq_found_iff {levels : Nat} {tokens rest : List Token} {expr : Expr} :
    factor levels tokens = .found expr rest ↔
      IsFactor expr ∧ expr.accessorCount ≤ levels ∧ tokens = expr.tokens ++ rest ∧
        PathStops expr rest := by
  refine ⟨?_, ?_⟩
  · intro found
    unfold factor at found
    cases read : literal tokens with
    | absent =>
        simp only [read] at found
        obtain ⟨path, others⟩ := reference_eq_found_iff.mp found
        exact ⟨.path path, others⟩
    | found other others =>
        simp only [read] at found
        cases found
        obtain ⟨token, isLiteral, rfl, rfl⟩ := literal_eq_found_iff.mp read
        refine ⟨.literal isLiteral, Nat.zero_le _, rfl, fun next _ _ path => ?_⟩
        cases path
    | failed error others => exact absurd read (literal_ne_failed tokens error others)
  · intro described
    obtain ⟨isFactor, fits, rfl, stops⟩ := described
    unfold factor
    cases isFactor with
    | @literal token isLiteral =>
        simp [literal, isLiteral, Expr.tokens]
    | path path =>
        obtain ⟨token, others, tokens, kind⟩ := path.head
        have notLiteral : isLiteral token = false := by simp [isLiteral, kind]
        have absent : literal (expr.tokens ++ rest) = .absent := by
          simp [tokens, literal, notLiteral]
        simp only [absent]
        exact reference_eq_found_iff.mpr ⟨path, fits, rfl, stops⟩

/-- A factor fails only behind a reference. -/
theorem factor_eq_failed_iff {levels : Nat} {tokens rest : List Token} {error : SyntaxError} :
    factor levels tokens = .failed error rest ↔
      ∃ token behind, tokens = token :: behind ∧ token.kind = .reference ∧
        accessors levels (.reference token) behind = .failed error rest := by
  cases tokens with
  | nil => simp [factor, literal, reference]
  | cons token behind =>
      by_cases kind : token.kind = .reference
      · have same : factor levels (token :: behind) =
            accessors levels (.reference token) behind := by
          simp [factor, literal, isLiteral, reference, kind]
        rw [same]
        refine ⟨fun failed => ⟨token, behind, rfl, kind, failed⟩, ?_⟩
        rintro ⟨_, _, split, -, failed⟩
        cases split
        exact failed
      · by_cases isLiteral : isLiteral token = true
        · simp [factor, literal, isLiteral, kind]
        · simp [factor, literal, isLiteral, reference, kind]

/-- A factor is absent exactly if the first token cannot start one. -/
theorem factor_eq_absent_iff {levels : Nat} {tokens : List Token} :
    factor levels tokens = .absent ↔ ∀ first ∈ tokens.head?, startsFactor first = false := by
  cases tokens with
  | nil => simp [factor, literal, reference]
  | cons token rest =>
      by_cases isLiteral : isLiteral token = true
      · simp [factor, literal, isLiteral, startsFactor]
      · by_cases kind : token.kind = .reference
        · simp [factor, literal, isLiteral, startsFactor, reference, kind,
            accessors_ne_absent]
        · simp [factor, literal, isLiteral, startsFactor, reference, kind]

/-! ## Terms -/

/-- What is left behind a term does not go on with it. -/
def TermStops (expr : Expr) (rest : List Token) : Prop :=
  PathStops expr rest ∧ ∀ next ∈ rest.head?, multiplicative? next = none

/-- A point is no operator. -/
theorem pathStops_of_operator {expr : Expr} {token : Token} {operator : Operator}
    {rest : List Token} (spelled : Operator.ofToken? token = some operator) :
    PathStops expr (token :: rest) := by
  intro next member point
  cases member
  rw [isSymbol_point_of_ofToken? spelled] at point
  cases point

/-- A term takes all factors there are, one level for each. -/
theorem term_eq_found_iff {levels : Nat} {tokens rest : List Token} {expr : Expr} :
    term levels tokens = .found expr rest ↔
      IsTerm expr ∧ expr.TermNests levels ∧ tokens = expr.tokens ++ rest ∧
        TermStops expr rest := by
  induction levels generalizing tokens expr with
  | zero =>
      refine ⟨?_, ?_⟩
      · intro found
        cases found
      · intro described
        obtain ⟨-, nests, -⟩ := described
        exact absurd nests (not_termNests_zero expr)
  | succ levels ih =>
      rw [term, chain_eq_found_iff]
      refine ⟨?_, ?_⟩
      · intro given
        rcases given with ⟨found, stops⟩ |
          ⟨left, token, behind, operator, right, first, spelled, second, rfl⟩
        · obtain ⟨isFactor, fits, rfl, pathStops⟩ := factor_eq_found_iff.mp found
          exact ⟨.factor isFactor, isFactor.termNests_succ_iff.mpr fits, rfl, pathStops, stops⟩
        · obtain ⟨isFactor, fits, rfl, -⟩ := factor_eq_found_iff.mp first
          obtain ⟨isTerm, nests, rfl, stops⟩ := ih.mp second
          exact ⟨.product spelled isFactor isTerm, termNests_succ_product_iff.mpr ⟨fits, nests⟩,
            by simp [Expr.tokens], stops⟩
      · intro described
        obtain ⟨isTerm, nests, rfl, stops⟩ := described
        cases isTerm with
        | factor isFactor =>
            exact .inl ⟨factor_eq_found_iff.mpr
              ⟨isFactor, isFactor.termNests_succ_iff.mp nests, rfl, stops.1⟩, stops.2⟩
        | @product operator token left right spelled isFactor isTerm =>
            obtain ⟨fits, nests⟩ := termNests_succ_product_iff.mp nests
            have found := (multiplicative?_eq_some_iff.mp spelled).1
            refine .inr ⟨left, token, right.tokens ++ rest, operator, right, ?_, spelled,
              ih.mpr ⟨isTerm, nests, rfl, stops⟩, rfl⟩
            exact factor_eq_found_iff.mpr
              ⟨isFactor, fits, by simp [Expr.tokens], pathStops_of_operator found⟩

/-- With a level to start on, a term is absent exactly if the first token cannot
start a factor. -/
theorem term_succ_eq_absent_iff {levels : Nat} {tokens : List Token} :
    term (levels + 1) tokens = .absent ↔
      ∀ first ∈ tokens.head?, startsFactor first = false := by
  rw [term, chain_eq_absent_iff, factor_eq_absent_iff]

/-! ## Expressions -/

/-- What is left behind an expression does not go on with it. -/
def Stops (expr : Expr) (rest : List Token) : Prop :=
  PathStops expr rest ∧ ∀ next ∈ rest.head?, Operator.ofToken? next = none

/-- What a sum finds, if it is known what the expression behind its operator does. -/
theorem sum_eq_found_iff_of {levels : Nat}
    (behind : ∀ {tokens rest : List Token} {expr : Expr},
      expression levels tokens = .found expr rest ↔
        IsFormula expr ∧ expr.Nests levels ∧ tokens = expr.tokens ++ rest ∧ Stops expr rest)
    {tokens rest : List Token} {expr : Expr} :
    sum levels tokens = .found expr rest ↔
      IsSum expr ∧ expr.Nests (levels + 1) ∧ tokens = expr.tokens ++ rest ∧ Stops expr rest := by
  rw [sum, chain_eq_found_iff]
  simp only [demand_eq_found_iff]
  refine ⟨?_, ?_⟩
  · intro given
    rcases given with ⟨found, stops⟩ |
      ⟨left, token, others, operator, right, first, spelled, second, rfl⟩
    · obtain ⟨isTerm, nests, rfl, pathStops, termStops⟩ := term_eq_found_iff.mp found
      exact ⟨.inl isTerm, isTerm.nests_succ_iff.mpr nests, rfl, pathStops,
        fun next member => ofToken?_eq_none_iff.mpr ⟨stops next member, termStops next member⟩⟩
    · obtain ⟨isTerm, termNests, rfl, -⟩ := term_eq_found_iff.mp first
      obtain ⟨formula, nests, rfl, stops⟩ := behind.mp second
      exact ⟨.inr ⟨operator, token, left, right, rfl, spelled, isTerm, formula⟩,
        (nests_succ_sum_iff spelled).mpr ⟨termNests, nests⟩, by simp [Expr.tokens], stops⟩
  · intro described
    obtain ⟨isTerm | ⟨operator, token, left, right, rfl, spelled, isTerm, formula⟩, nests, rfl,
      pathStops, stops⟩ := described
    · refine .inl ⟨term_eq_found_iff.mpr ⟨isTerm, isTerm.nests_succ_iff.mp nests, rfl, pathStops,
        fun next member => ?_⟩, fun next member => ?_⟩
      · exact (ofToken?_eq_none_iff.mp (stops next member)).2
      · exact (ofToken?_eq_none_iff.mp (stops next member)).1
    · obtain ⟨termNests, nests⟩ := (nests_succ_sum_iff spelled).mp nests
      have found := (additive?_eq_some_iff.mp spelled).1
      refine .inr ⟨left, token, right.tokens ++ rest, operator, right, ?_, spelled,
        behind.mpr ⟨formula, nests, rfl, pathStops, stops⟩, rfl⟩
      refine term_eq_found_iff.mpr ⟨isTerm, termNests, by simp [Expr.tokens],
        pathStops_of_operator found, fun next member => ?_⟩
      cases member
      exact multiplicative?_eq_none_of_additive? spelled

/-- An expression takes all terms there are, one level for each and one more for
what is inside it. -/
theorem expression_eq_found_iff {levels : Nat} {tokens rest : List Token} {expr : Expr} :
    expression levels tokens = .found expr rest ↔
      IsFormula expr ∧ expr.Nests levels ∧ tokens = expr.tokens ++ rest ∧ Stops expr rest := by
  induction levels generalizing tokens rest expr with
  | zero =>
      refine ⟨?_, ?_⟩
      · intro found
        cases found
      · intro described
        obtain ⟨-, nests, -⟩ := described
        exact absurd nests (not_nests_zero expr)
  | succ levels ih =>
      have sum_iff := @sum_eq_found_iff_of levels ih
      refine ⟨?_, ?_⟩
      · intro found
        rcases sign_cases tokens with rfl | ⟨sign, rfl, signed⟩ |
          ⟨sign, behind, rfl, signed, inhabited⟩ | ⟨first, behind, rfl, unsigned⟩
        · cases found
        · rw [expression_of_lone_sign signed] at found
          cases found
        · rw [expression_of_sign signed inhabited] at found
          cases result : sum levels behind with
          | found operand others =>
              rw [result] at found
              cases found
              obtain ⟨isSum, nests, split, stops⟩ := sum_iff.mp result
              exact ⟨isFormula_iff.mpr (.inr ⟨sign, operand, rfl, signed, isSum⟩),
                nests_negate_iff.mpr nests, by simp [Expr.tokens, split], stops⟩
          | _ =>
              rw [result] at found
              cases found
        · rw [expression_of_no_sign unsigned] at found
          obtain ⟨isSum, others⟩ := sum_iff.mp found
          exact ⟨isFormula_iff.mpr (.inl isSum), others⟩
      · intro described
        obtain ⟨formula, nests, rfl, stops⟩ := described
        rcases isFormula_iff.mp formula with isSum | ⟨sign, operand, rfl, signed, isSum⟩
        · obtain ⟨first, others, tokens, -⟩ := isSum.head
          have unsigned := isSum.isSymbol_head tokens
          have found := sum_iff.mpr ⟨isSum, nests, rfl, stops⟩
          rw [tokens, List.cons_append] at found ⊢
          rw [expression_of_no_sign unsigned, found]
        · obtain ⟨first, others, tokens, -⟩ := isSum.head
          have found := sum_iff.mpr ⟨isSum, nests_negate_iff.mp nests, rfl, stops⟩
          have inhabited : operand.tokens ++ rest ≠ [] := by simp [tokens]
          rw [Expr.tokens, List.cons_append, expression_of_sign signed inhabited, found]
          rfl

end Grammar

namespace Cursor

open Grammar

theorem parse_of_absent {cursor : Cursor}
    (absent : expression maxDepth cursor.remaining = .absent) :
    cursor.parse = (.error (.grammatical .emptyInput none), cursor) := by
  simp [parse, run, absent]

theorem parse_of_found {cursor : Cursor} {expr : Expr} {rest : List Token}
    (found : expression maxDepth cursor.remaining = .found expr rest) :
    cursor.parse = (.ok expr, cursor.advanceTo rest) := by
  simp [parse, run, found]

theorem parse_of_failed {cursor : Cursor} {error : SyntaxError} {rest : List Token}
    (failed : expression maxDepth cursor.remaining = .failed error rest) :
    cursor.parse = (.error error, cursor.advanceTo rest) := by
  simp [parse, run, failed]

/-- A cursor parses what the grammar finds behind it. -/
theorem parse_eq_ok_iff_found {cursor after : Cursor} {expr : Expr} :
    cursor.parse = (.ok expr, after) ↔
      ∃ rest, expression maxDepth cursor.remaining = .found expr rest ∧
        after = cursor.advanceTo rest := by
  refine ⟨?_, ?_⟩
  · intro parsed
    cases result : expression maxDepth cursor.remaining with
    | absent =>
        rw [parse_of_absent result] at parsed
        cases parsed
    | found found rest =>
        rw [parse_of_found result] at parsed
        cases parsed
        exact ⟨rest, rfl, rfl⟩
    | failed error rest =>
        rw [parse_of_failed result] at parsed
        cases parsed
  · intro described
    obtain ⟨rest, found, rfl⟩ := described
    exact parse_of_found found

/-- A cursor fails at the end of its tokens, or like the grammar behind it. -/
theorem parse_eq_error_iff {cursor after : Cursor} {error : SyntaxError} :
    cursor.parse = (.error error, after) ↔
      (cursor.remaining = [] ∧ error = .grammatical .emptyInput none ∧ after = cursor) ∨
      ∃ rest, expression maxDepth cursor.remaining = .failed error rest ∧
        after = cursor.advanceTo rest := by
  refine ⟨?_, ?_⟩
  · intro parsed
    cases result : expression maxDepth cursor.remaining with
    | absent =>
        rw [parse_of_absent result] at parsed
        cases parsed
        exact .inl ⟨expression_succ_eq_absent_iff.mp result, rfl, rfl⟩
    | found found rest =>
        rw [parse_of_found result] at parsed
        cases parsed
    | failed other rest =>
        rw [parse_of_failed result] at parsed
        cases parsed
        exact .inr ⟨rest, rfl, rfl⟩
  · intro described
    rcases described with ⟨empty, rfl, rfl⟩ | ⟨rest, failed, rfl⟩
    · exact parse_of_absent (expression_succ_eq_absent_iff.mpr empty)
    · exact parse_of_failed failed

/-- A cursor that leaves a rest of its tokens stands before it. -/
theorem advanceTo_eq {tokens seen rest : List Token} {start : Nat}
    (split : tokens.drop start = seen ++ rest) :
    (⟨tokens, start⟩ : Cursor).advanceTo rest = ⟨tokens, start + seen.length⟩ := by
  simp [advanceTo, remaining, split]

/-- Where tokens are split, so is every longer window of them. -/
theorem drop_take_of_split {tokens seen rest : List Token} {start : Nat}
    (split : tokens.drop start = seen ++ rest) (more : Nat) :
    (tokens.take (start + seen.length + more)).drop start = seen ++ rest.take more := by
  rw [List.drop_take, split, Nat.add_assoc, Nat.add_sub_cancel_left, List.take_length_add_append]

theorem drop_of_split {tokens seen rest : List Token} {start : Nat}
    (split : tokens.drop start = seen ++ rest) : tokens.drop (start + seen.length) = rest := by
  rw [← List.drop_drop, split, List.drop_left]

theorem le_length_of_split {tokens seen rest : List Token} {start : Nat}
    (split : tokens.drop start = seen ++ rest) (inhabited : seen ≠ []) :
    start + seen.length ≤ tokens.length := by
  have lengths := congrArg List.length split
  have positive := List.length_pos_iff.mpr inhabited
  simp only [List.length_drop, List.length_append] at lengths
  omega

/-- The tokens between two places split those behind the first. -/
theorem split_of_drop_take {tokens seen : List Token} {start stop : Nat} (ordered : start ≤ stop)
    (inside : stop ≤ tokens.length) (taken : (tokens.take stop).drop start = seen) :
    tokens.drop start = seen ++ tokens.drop stop ∧ start + seen.length = stop := by
  subst taken
  refine ⟨?_, ?_⟩
  · rw [List.drop_take, ← Nat.add_sub_cancel' ordered, ← List.drop_drop,
      Nat.add_sub_cancel_left, List.take_append_drop]
  · rw [List.length_drop, List.length_take, Nat.min_eq_left inside, Nat.add_sub_cancel' ordered]

/-- **Exactness of parsing.** A cursor over any tokens parses a formula and moves to
a place exactly if the tokens up to that place are those of the tree, the tree has
the shape of a formula, none of its factors nests too deep, and the next token is
no operator, nor a point behind a path. -/
theorem parse_eq_ok_iff {tokens : List Token} {start stop : Nat} {expr : Expr} :
    Cursor.parse ⟨tokens, start⟩ = (.ok expr, ⟨tokens, stop⟩) ↔
      (start ≤ stop ∧ stop ≤ tokens.length ∧ (tokens.take stop).drop start = expr.tokens) ∧
      IsFormula expr ∧
      (∀ (i : Nat) (term : Expr), expr.terms[i]? = some term →
        ∀ (j : Nat) (factor : Expr), term.factors[j]? = some factor →
          (i + 1) + (j + 1) + factor.accessorCount ≤ maxDepth) ∧
      ∀ next, tokens[stop]? = some next →
        Operator.ofToken? next = none ∧ (next.isSymbol "." = true → ¬ IsPath expr.lastFactor) := by
  rw [parse_eq_ok_iff_found]
  refine ⟨?_, ?_⟩
  · intro parsed
    obtain ⟨rest, found, after⟩ := parsed
    obtain ⟨formula, nests, split, pathStops, stops⟩ := expression_eq_found_iff.mp found
    have split : tokens.drop start = expr.tokens ++ rest := split
    rw [advanceTo_eq split, Cursor.mk.injEq] at after
    obtain ⟨-, rfl⟩ := after
    have taken := drop_take_of_split split 0
    rw [Nat.add_zero, List.take_zero, List.append_nil] at taken
    refine ⟨⟨Nat.le_add_right _ _, le_length_of_split split expr.tokens_ne_nil, taken⟩, formula,
      nests, fun next member => ?_⟩
    rw [← List.head?_drop, drop_of_split split] at member
    exact ⟨stops next member, pathStops next member⟩
  · intro described
    obtain ⟨⟨ordered, inside, taken⟩, formula, nests, stops⟩ := described
    obtain ⟨split, reached⟩ := split_of_drop_take ordered inside taken
    have further : ∀ next ∈ (tokens.drop stop).head?, tokens[stop]? = some next := by
      intro next member
      rwa [List.head?_drop] at member
    refine ⟨tokens.drop stop, expression_eq_found_iff.mpr ⟨formula, nests, split, ?_, ?_⟩, ?_⟩
    · exact fun next member => (stops next (further next member)).2
    · exact fun next member => (stops next (further next member)).1
    · rw [advanceTo_eq split, reached]

end Cursor

end DataFormula
