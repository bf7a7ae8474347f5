import DataFormula.Proofs.Grammar.Exactness

/-!
# Errors at the first wrong token

Where the grammar fails for another cause than the depth of nesting, an operand is
missing: the tokens before that place and one more operand are a formula
(`Grammar.expression_awaits`). The failure stays the same with other tokens behind
the place where it is seen and with more levels to nest
(`Grammar.expression_failed_stable`), so nothing that comes behind the wrong token
makes a formula of it. `Cursor.parse_failed_correct_prefix` says both of a cursor.
-/

namespace DataFormula

namespace Grammar

/-- The tokens at which a failure is seen that leaves `rest`. Only an invalid key has
been passed by then. -/
def SeenAt (cause : GrammarCause) (rest unread : List Token) : Prop :=
  (cause = .invalidKey ∧ ∃ key, unread = key :: rest) ∨ (cause ≠ .invalidKey ∧ unread = rest)

theorem SeenAt.unread {cause : GrammarCause} {rest : List Token} (notKey : cause ≠ .invalidKey) :
    SeenAt cause rest rest := .inr ⟨notKey, rfl⟩

/-! ## An operand is missing -/

/-- A literal that can stand as an operand and as a key. -/
def zero : Token := ⟨.integer, "0", .start⟩

/-- With one more operand behind them, the tokens are those of a tree of some shape. -/
def Awaits (shape : Expr → Prop) (seen : List Token) : Prop :=
  ∃ expr, shape expr ∧ expr.tokens = seen ++ [zero]

theorem isFactor_zero : IsFactor (.value zero) := .literal rfl

theorem isKey_zero : IsKey (.value zero) := .value (.inl rfl)

theorem Awaits.imp {first second : Expr → Prop} {seen : List Token} (awaits : Awaits first seen)
    (implies : ∀ {expr}, first expr → second expr) : Awaits second seen := by
  obtain ⟨expr, shape, tokens⟩ := awaits
  exact ⟨expr, implies shape, tokens⟩

section Awaiting

variable {levels : Nat} {tokens rest : List Token} {cause : GrammarCause} {blamed : Option Token}

/-- Where accessors fail, a key is missing. -/
theorem accessors_awaits {object : Expr} (path : IsPath object)
    (failed : accessors levels object tokens = .failed (.grammatical cause blamed) rest)
    (shallow : cause ≠ .tooDeep) :
    ∃ seen unread, tokens = seen ++ unread ∧ SeenAt cause rest unread ∧
      Awaits IsPath (object.tokens ++ seen) := by
  fun_induction accessors levels object tokens with
  | case1 => cases failed
  | case2 =>
      cases failed
      exact absurd rfl shallow
  | case3 => cases failed
  | case4 levels object point spelled =>
      cases failed
      exact ⟨[point], [], rfl, .unread (by simp), .access point object (.value zero),
        .access spelled path isKey_zero, by simp [Expr.tokens]⟩
  | case5 levels object point spelled token others key isKey ih =>
      obtain ⟨isKey, keyTokens⟩ := key?_eq_some_iff.mp isKey
      obtain ⟨seen, unread, rfl, place, awaits⟩ := ih (.access spelled path isKey) failed
      exact ⟨point :: token :: seen, unread, rfl, place,
        by simpa [Expr.tokens, keyTokens] using awaits⟩
  | case6 levels object point spelled token others noKey =>
      cases failed
      exact ⟨[point], token :: rest, rfl, .inl ⟨rfl, token, rfl⟩,
        .access point object (.value zero), .access spelled path isKey_zero,
        by simp [Expr.tokens]⟩
  | case7 => cases failed

theorem factor_awaits (failed : factor levels tokens = .failed (.grammatical cause blamed) rest)
    (shallow : cause ≠ .tooDeep) :
    ∃ seen unread, tokens = seen ++ unread ∧ SeenAt cause rest unread ∧ Awaits IsFactor seen := by
  obtain ⟨token, behind, rfl, kind, failed⟩ := factor_eq_failed_iff.mp failed
  obtain ⟨seen, unread, rfl, place, awaits⟩ := accessors_awaits (.reference kind) failed shallow
  exact ⟨token :: seen, unread, rfl, place, awaits.imp .path⟩

theorem awaits_product {operator : Operator} {token : Token} {left : Expr} {seen : List Token}
    (spelled : multiplicative? token = some operator) (factor : IsFactor left)
    (awaits : Awaits IsTerm seen) : Awaits IsTerm (left.tokens ++ token :: seen) := by
  obtain ⟨right, term, tokens⟩ := awaits
  exact ⟨.operation operator token left right, .product spelled factor term,
    by simp [Expr.tokens, tokens]⟩

theorem awaits_sum {operator : Operator} {token : Token} {left : Expr} {seen : List Token}
    (spelled : additive? token = some operator) (term : IsTerm left)
    (awaits : Awaits IsFormula seen) : Awaits IsSum (left.tokens ++ token :: seen) := by
  obtain ⟨right, formula, tokens⟩ := awaits
  exact ⟨.operation operator token left right,
    .inr ⟨operator, token, left, right, rfl, spelled, term, formula⟩,
    by simp [Expr.tokens, tokens]⟩

theorem awaits_term_nil : Awaits IsTerm [] := ⟨.value zero, .factor isFactor_zero, rfl⟩

theorem awaits_negation {sign : Token} {seen : List Token} (signed : sign.isSymbol "-" = true)
    (awaits : Awaits IsSum seen) : Awaits IsFormula (sign :: seen) := by
  obtain ⟨operand, sum, tokens⟩ := awaits
  exact ⟨.negate sign operand, isFormula_iff.mpr (.inr ⟨sign, operand, rfl, signed, sum⟩),
    by simp [Expr.tokens, tokens]⟩

/-- Where a term fails, an operand or a key of it is missing. -/
theorem term_awaits (failed : term levels tokens = .failed (.grammatical cause blamed) rest)
    (shallow : cause ≠ .tooDeep) :
    ∃ seen unread, tokens = seen ++ unread ∧ SeenAt cause rest unread ∧ Awaits IsTerm seen := by
  induction levels generalizing tokens with
  | zero =>
      cases failed
      exact absurd rfl shallow
  | succ levels ih =>
      rw [term, chain_eq_failed_iff] at failed
      rcases failed with first | ⟨left, token, behind, operator, first, spelled, second⟩
      · obtain ⟨seen, unread, split, place, awaits⟩ := factor_awaits first shallow
        exact ⟨seen, unread, split, place, awaits.imp .factor⟩
      · obtain ⟨isFactor, -, rfl, -⟩ := factor_eq_found_iff.mp first
        rcases second with ⟨-, error, rfl⟩ | second
        · cases error
          exact ⟨left.tokens ++ [token], rest, by simp, .unread (by simp),
            awaits_product spelled isFactor awaits_term_nil⟩
        · obtain ⟨seen, unread, rfl, place, awaits⟩ := ih second
          exact ⟨left.tokens ++ token :: seen, unread, by simp, place,
            awaits_product spelled isFactor awaits⟩

/-- Where a sum fails, an operand or a key of it is missing, if that is so of the
expression behind its operator. -/
theorem sum_awaits_of
    (further : ∀ {tokens : List Token},
      expression levels tokens = .failed (.grammatical cause blamed) rest →
        ∃ seen unread, tokens = seen ++ unread ∧ SeenAt cause rest unread ∧ Awaits IsFormula seen)
    (failed : sum levels tokens = .failed (.grammatical cause blamed) rest)
    (shallow : cause ≠ .tooDeep) :
    ∃ seen unread, tokens = seen ++ unread ∧ SeenAt cause rest unread ∧ Awaits IsSum seen := by
  rw [sum, chain_eq_failed_iff] at failed
  rcases failed with first | ⟨left, token, behind, operator, first, spelled, second⟩
  · rcases demand_eq_failed_iff.mp first with first | ⟨-, error, rfl⟩
    · obtain ⟨seen, unread, split, place, awaits⟩ := term_awaits first shallow
      exact ⟨seen, unread, split, place, awaits.imp .inl⟩
    · cases error
      exact ⟨[], rest, rfl, .unread (by simp), awaits_term_nil.imp .inl⟩
  · obtain ⟨isTerm, -, rfl, -⟩ := term_eq_found_iff.mp (demand_eq_found_iff.mp first)
    rcases second with ⟨-, error, rfl⟩ | second
    · cases error
      exact ⟨left.tokens ++ [token], rest, by simp, .unread (by simp),
        awaits_sum spelled isTerm (awaits_term_nil.imp .term)⟩
    · obtain ⟨seen, unread, rfl, place, awaits⟩ := further second
      exact ⟨left.tokens ++ token :: seen, unread, by simp, place,
        awaits_sum spelled isTerm awaits⟩

/-- **Never later.** Where an expression fails, an operand or a key is missing. -/
theorem expression_awaits
    (failed : expression levels tokens = .failed (.grammatical cause blamed) rest)
    (shallow : cause ≠ .tooDeep) :
    ∃ seen unread, tokens = seen ++ unread ∧ SeenAt cause rest unread ∧
      Awaits IsFormula seen := by
  induction levels generalizing tokens with
  | zero =>
      cases failed
      exact absurd rfl shallow
  | succ levels ih =>
      have sum_awaits := fun {tokens : List Token} =>
        @sum_awaits_of levels tokens rest cause blamed ih
      rcases expression_succ_eq_failed_iff.mp failed with ⟨sign, rfl, signed, error, rfl⟩ |
        ⟨sign, behind, rfl, signed, -, failed⟩ | ⟨first, behind, rfl, -, failed⟩
      · cases error
        exact ⟨[sign], [], rfl, .unread (by simp),
          awaits_negation signed (awaits_term_nil.imp .inl)⟩
      · obtain ⟨seen, unread, rfl, place, awaits⟩ := sum_awaits failed shallow
        exact ⟨sign :: seen, unread, rfl, place, awaits_negation signed awaits⟩
      · obtain ⟨seen, unread, split, place, awaits⟩ := sum_awaits failed shallow
        exact ⟨seen, unread, split, place, awaits.imp fun sum => isFormula_iff.mpr (.inl sum)⟩

end Awaiting

/-! ## Nothing further matters -/

/-- A rule fails in one way behind `seen`, with any tokens there that start like `rest`;
an invalid key has been passed and needs no such condition. -/
def FailsStably (rule : List Token → Outcome) (cause : GrammarCause) (blamed : Option Token)
    (seen rest : List Token) : Prop :=
  ∀ other : List Token, cause = .invalidKey ∨ other.head? = rest.head? →
    rule (seen ++ other) = .failed (.grammatical cause blamed) other

section Stability

variable {levels deeper : Nat} {tokens rest : List Token} {cause : GrammarCause}
  {blamed : Option Token}

theorem accessors_failed_stable {object : Expr}
    (failed : accessors levels object tokens = .failed (.grammatical cause blamed) rest)
    (enough : levels ≤ deeper) (same : cause = .tooDeep → deeper = levels) :
    ∃ seen, tokens = seen ++ rest ∧
      FailsStably (accessors deeper object) cause blamed seen rest := by
  fun_induction accessors levels object tokens generalizing deeper with
  | case1 => cases failed
  | case2 object point behind spelled =>
      cases failed
      obtain rfl : deeper = 0 := same rfl
      refine ⟨[point], rfl, fun other _ => ?_⟩
      simp [accessors, spelled]
  | case3 => cases failed
  | case4 levels object point spelled =>
      cases failed
      obtain ⟨deeper, rfl⟩ := Nat.exists_eq_add_of_le' (Nat.one_le_of_lt enough)
      refine ⟨[point], rfl, fun other alike => ?_⟩
      obtain rfl : other = [] := by simpa using alike
      simp [accessors, spelled]
  | case5 levels object point spelled token others key isKey ih =>
      obtain ⟨deeper, rfl⟩ := Nat.exists_eq_add_of_le' (Nat.one_le_of_lt enough)
      obtain ⟨seen, rfl, stable⟩ := ih failed (Nat.le_of_succ_le_succ enough)
        fun tooDeep => Nat.succ.inj (same tooDeep)
      refine ⟨point :: token :: seen, rfl, fun other alike => ?_⟩
      simp only [List.cons_append, accessors, spelled, if_true, isKey]
      exact stable other alike
  | case6 levels object point spelled token others noKey =>
      cases failed
      obtain ⟨deeper, rfl⟩ := Nat.exists_eq_add_of_le' (Nat.one_le_of_lt enough)
      refine ⟨[point, token], rfl, fun other _ => ?_⟩
      simp [accessors, spelled, noKey]
  | case7 => cases failed

theorem factor_failed_stable
    (failed : factor levels tokens = .failed (.grammatical cause blamed) rest)
    (enough : levels ≤ deeper) (same : cause = .tooDeep → deeper = levels) :
    ∃ seen, tokens = seen ++ rest ∧ FailsStably (factor deeper) cause blamed seen rest := by
  obtain ⟨token, behind, rfl, kind, failed⟩ := factor_eq_failed_iff.mp failed
  obtain ⟨seen, rfl, stable⟩ := accessors_failed_stable failed enough same
  refine ⟨token :: seen, rfl, fun other alike => ?_⟩
  exact factor_eq_failed_iff.mpr ⟨token, seen ++ other, rfl, kind, stable other alike⟩

theorem term_absent_stable {other : List Token} (absent : term levels tokens = .absent)
    (enough : levels ≤ deeper) (alike : other.head? = tokens.head?) :
    term deeper other = .absent := by
  cases levels with
  | zero => cases absent
  | succ levels =>
      obtain ⟨deeper, rfl⟩ := Nat.exists_eq_add_of_le' (Nat.one_le_of_lt enough)
      rw [term_succ_eq_absent_iff] at absent ⊢
      rwa [alike]

theorem expression_absent_stable {other : List Token}
    (absent : expression levels tokens = .absent) (enough : levels ≤ deeper)
    (alike : other.head? = tokens.head?) : expression deeper other = .absent := by
  cases levels with
  | zero => cases absent
  | succ levels =>
      obtain ⟨deeper, rfl⟩ := Nat.exists_eq_add_of_le' (Nat.one_le_of_lt enough)
      rw [expression_succ_eq_absent_iff] at absent ⊢
      simpa [absent] using alike

/-- A term fails in the same way with more levels, unless it had too few. -/
theorem term_failed_stable
    (failed : term levels tokens = .failed (.grammatical cause blamed) rest)
    (enough : levels ≤ deeper) (same : cause = .tooDeep → deeper = levels) :
    ∃ seen, tokens = seen ++ rest ∧ FailsStably (term deeper) cause blamed seen rest := by
  induction levels generalizing tokens deeper with
  | zero =>
      cases failed
      obtain rfl : deeper = 0 := same rfl
      refine ⟨[], rfl, fun other alike => ?_⟩
      obtain alike : other.head? = rest.head? := by simpa using alike
      simp [term, tooDeep, alike]
  | succ levels ih =>
      obtain ⟨deeper, rfl⟩ := Nat.exists_eq_add_of_le' (Nat.one_le_of_lt enough)
      have enough := Nat.le_of_succ_le_succ enough
      have same := fun tooDeep => Nat.succ.inj (same tooDeep)
      rw [term, chain_eq_failed_iff] at failed
      rcases failed with first | ⟨left, token, behind, operator, first, spelled, second⟩
      · obtain ⟨seen, split, stable⟩ := factor_failed_stable first enough same
        exact ⟨seen, split, fun other alike => chain_of_failed (stable other alike)⟩
      · obtain ⟨isFactor, fits, rfl, pathStops⟩ := factor_eq_found_iff.mp first
        have found : ∀ others, factor deeper (left.tokens ++ token :: others) =
            .found left (token :: others) := fun others =>
          factor_eq_found_iff.mpr ⟨isFactor, Nat.le_trans fits enough, rfl, pathStops⟩
        rcases second with ⟨absent, error, rfl⟩ | second
        · cases error
          refine ⟨left.tokens ++ [token], by simp, fun other alike => ?_⟩
          obtain alike : other.head? = rest.head? := by simpa using alike
          rw [List.append_assoc, List.singleton_append, term, chain_of_operator (found _) spelled,
            term_absent_stable absent enough alike]
        · obtain ⟨seen, rfl, stable⟩ := ih second enough same
          refine ⟨left.tokens ++ token :: seen, by simp, fun other alike => ?_⟩
          rw [List.append_assoc, List.cons_append, term, chain_of_operator (found _) spelled,
            stable other alike]
          rfl

theorem sum_failed_stable_of
    (further : ∀ {tokens : List Token},
      expression levels tokens = .failed (.grammatical cause blamed) rest →
        ∃ seen, tokens = seen ++ rest ∧ FailsStably (expression deeper) cause blamed seen rest)
    (failed : sum levels tokens = .failed (.grammatical cause blamed) rest)
    (enough : levels ≤ deeper) (same : cause = .tooDeep → deeper = levels) :
    ∃ seen, tokens = seen ++ rest ∧ FailsStably (sum deeper) cause blamed seen rest := by
  rw [sum, chain_eq_failed_iff] at failed
  rcases failed with first | ⟨left, token, behind, operator, first, spelled, second⟩
  · rcases demand_eq_failed_iff.mp first with first | ⟨absent, error, rfl⟩
    · obtain ⟨seen, split, stable⟩ := term_failed_stable first enough same
      exact ⟨seen, split, fun other alike =>
        chain_of_failed (demand_eq_failed_iff.mpr (.inl (stable other alike)))⟩
    · cases error
      refine ⟨[], rfl, fun other alike => ?_⟩
      obtain alike : other.head? = rest.head? := by simpa using alike
      apply chain_of_failed
      refine demand_eq_failed_iff.mpr (.inr ⟨?_, by simp [alike], rfl⟩)
      exact term_absent_stable absent enough alike
  · obtain ⟨isTerm, nests, rfl, stops⟩ := term_eq_found_iff.mp (demand_eq_found_iff.mp first)
    have found : ∀ others, demand (term deeper) .missingTerm (left.tokens ++ token :: others) =
        .found left (token :: others) := fun others =>
      demand_eq_found_iff.mpr (term_eq_found_iff.mpr ⟨isTerm, nests.mono enough, rfl, stops⟩)
    rcases second with ⟨absent, error, rfl⟩ | second
    · cases error
      refine ⟨left.tokens ++ [token], by simp, fun other alike => ?_⟩
      obtain alike : other.head? = rest.head? := by simpa using alike
      rw [List.append_assoc, List.singleton_append, sum, chain_of_operator (found _) spelled,
        expression_absent_stable absent enough alike]
    · obtain ⟨seen, rfl, stable⟩ := further second
      refine ⟨left.tokens ++ token :: seen, by simp, fun other alike => ?_⟩
      rw [List.append_assoc, List.cons_append, sum, chain_of_operator (found _) spelled,
        stable other alike]
      rfl

/-- A sum does not fail at once because of a key. -/
theorem sum_nil_ne_invalidKey :
    sum levels [] ≠ .failed (.grammatical .invalidKey blamed) rest := by
  intro failed
  cases levels <;> cases failed

/-- The tokens a sum fails on start alike, whatever comes behind. -/
theorem FailsStably.head?_eq {seen other : List Token}
    (stable : FailsStably (sum levels) cause blamed seen rest)
    (alike : cause = .invalidKey ∨ other.head? = rest.head?) :
    (seen ++ other).head? = (seen ++ rest).head? := by
  cases seen with
  | cons first seen => rfl
  | nil =>
      rcases alike with rfl | alike
      · exact absurd (stable [] (.inl rfl)) sum_nil_ne_invalidKey
      · exact alike

/-- **Never earlier.** An expression fails in the same way whatever comes behind the
place where the failure is seen, and with more levels, unless it had too few. -/
theorem expression_failed_stable
    (failed : expression levels tokens = .failed (.grammatical cause blamed) rest)
    (enough : levels ≤ deeper) (same : cause = .tooDeep → deeper = levels) :
    ∃ seen, tokens = seen ++ rest ∧ FailsStably (expression deeper) cause blamed seen rest := by
  induction levels generalizing tokens deeper with
  | zero =>
      cases failed
      obtain rfl : deeper = 0 := same rfl
      refine ⟨[], rfl, fun other alike => ?_⟩
      obtain alike : other.head? = rest.head? := by simpa using alike
      simp [expression, tooDeep, alike]
  | succ levels ih =>
      obtain ⟨deeper, rfl⟩ := Nat.exists_eq_add_of_le' (Nat.one_le_of_lt enough)
      have enough := Nat.le_of_succ_le_succ enough
      have same := fun tooDeep => Nat.succ.inj (same tooDeep)
      have sum_stable := fun {tokens : List Token}
          (failed : sum levels tokens = .failed (.grammatical cause blamed) rest) =>
        sum_failed_stable_of (fun further => ih further enough same) failed enough same
      rcases expression_succ_eq_failed_iff.mp failed with ⟨sign, rfl, signed, error, rfl⟩ |
        ⟨sign, behind, rfl, signed, inhabited, failed⟩ | ⟨first, behind, rfl, unsigned, failed⟩
      · cases error
        refine ⟨[sign], rfl, fun other alike => ?_⟩
        obtain rfl : other = [] := by simpa using alike
        exact expression_of_lone_sign signed
      · obtain ⟨seen, rfl, stable⟩ := sum_stable failed
        refine ⟨sign :: seen, rfl, fun other alike => ?_⟩
        have inhabited : seen ++ other ≠ [] := by
          intro empty
          have alike := stable.head?_eq alike
          rw [empty, List.head?_nil] at alike
          exact inhabited (List.head?_eq_none_iff.mp alike.symm)
        rw [List.cons_append, expression_of_sign signed inhabited, stable other alike]
        rfl
      · obtain ⟨seen, split, stable⟩ := sum_stable failed
        refine ⟨seen, split, fun other alike => ?_⟩
        have head : (seen ++ other).head? = some first := by
          rw [stable.head?_eq alike, ← split, List.head?_cons]
        obtain ⟨others, starts⟩ := List.head?_eq_some_iff.mp head
        rw [← stable other alike, starts]
        exact expression_of_no_sign unsigned

/-- An expression fails behind tokens that one more operand makes a formula, and with
the token behind them nothing further and no more levels help. -/
theorem expression_failed_at
    (failed : expression levels tokens = .failed (.grammatical cause blamed) rest)
    (shallow : cause ≠ .tooDeep) :
    ∃ seen unread, tokens = seen ++ unread ∧ SeenAt cause rest unread ∧
      Awaits IsFormula seen ∧
      ∀ wrong behind, unread = wrong :: behind → ∀ deeper, levels ≤ deeper → ∀ others,
        ∃ left, expression deeper (seen ++ wrong :: others) =
          .failed (.grammatical cause blamed) left := by
  obtain ⟨seen, unread, split, place, awaits⟩ := expression_awaits failed shallow
  refine ⟨seen, unread, split, place, awaits, fun wrong behind starts deeper enough others => ?_⟩
  obtain ⟨passed, split', stable⟩ :=
    expression_failed_stable failed enough fun tooDeep => absurd tooDeep shallow
  rcases place with ⟨isKey, key, rfl⟩ | ⟨-, rfl⟩
  · -- The key has been passed: nothing behind it is looked at.
    cases starts
    obtain rfl : passed = seen ++ [wrong] := by
      rw [split, ← List.singleton_append, ← List.append_assoc] at split'
      exact (List.append_cancel_right split').symm
    refine ⟨others, ?_⟩
    simpa using stable others (.inl isKey)
  · subst starts
    obtain rfl : passed = seen := (List.append_cancel_right (split.symm.trans split')).symm
    exact ⟨wrong :: others, stable (wrong :: others) (.inr rfl)⟩

end Stability

/-! ## Levels enough -/

theorem IsTerm.exists_nests {term : Expr} (isTerm : IsTerm term) :
    ∃ levels, term.TermNests levels := by
  induction isTerm with
  | @factor factor isFactor =>
      exact ⟨factor.accessorCount + 1, isFactor.termNests_succ_iff.mpr (Nat.le_refl _)⟩
  | @product operator token left right _ _ _ ih =>
      obtain ⟨levels, nests⟩ := ih
      exact ⟨max left.accessorCount levels + 1, termNests_succ_product_iff.mpr
        ⟨Nat.le_max_left _ _, nests.mono (Nat.le_max_right _ _)⟩⟩

/-- Every formula fits some number of levels. -/
theorem IsFormula.exists_nests {expr : Expr} (formula : IsFormula expr) :
    ∃ levels, expr.Nests levels := by
  have sum_nests : ∀ {operator token left right}, additive? token = some operator →
      IsTerm left → (∃ levels, right.Nests levels) →
        ∃ levels, (Expr.operation operator token left right).Nests levels := by
    rintro operator token left right spelled isTerm ⟨levels, nests⟩
    obtain ⟨termLevels, termNests⟩ := isTerm.exists_nests
    exact ⟨max termLevels levels + 1, (nests_succ_sum_iff spelled).mpr
      ⟨termNests.mono (Nat.le_max_left _ _), nests.mono (Nat.le_max_right _ _)⟩⟩
  have term_nests : ∀ {term}, IsTerm term → ∃ levels, term.Nests levels := by
    intro term isTerm
    obtain ⟨levels, nests⟩ := isTerm.exists_nests
    exact ⟨levels + 1, isTerm.nests_succ_iff.mpr nests⟩
  induction formula with
  | term isTerm => exact term_nests isTerm
  | sum spelled isTerm _ ih => exact sum_nests spelled isTerm ih
  | negatedTerm _ isTerm =>
      obtain ⟨levels, nests⟩ := term_nests isTerm
      exact ⟨levels, nests_negate_iff.mpr nests⟩
  | negatedSum _ spelled isTerm _ ih =>
      obtain ⟨levels, nests⟩ := sum_nests spelled isTerm ih
      exact ⟨levels, nests_negate_iff.mpr nests⟩

end Grammar

namespace Cursor

open Grammar

/-- **Errors at the first wrong token.** When a cursor fails to parse for another cause
than an empty input or the depth of nesting, the tokens before the place of the
failure start a formula and are not all of it. The token at that place, if there is
one, cannot follow them in any formula, and no tokens that start with them and it
are parsed. -/
theorem parse_failed_correct_prefix {tokens : List Token} {start stop : Nat}
    {cause : GrammarCause} {blamed : Option Token}
    (failed : Cursor.parse ⟨tokens, start⟩ = (.error (.grammatical cause blamed), ⟨tokens, stop⟩))
    (inhabited : cause ≠ .emptyInput) (shallow : cause ≠ .tooDeep) :
    let place := if cause = .invalidKey then stop - 1 else stop
    (∃ expr more, IsFormula expr ∧ more ≠ [] ∧
      expr.tokens = (tokens.take place).drop start ++ more) ∧
    (place < tokens.length → ∀ others : List Token,
      (∀ expr, IsFormula expr → expr.tokens ≠ (tokens.take (place + 1)).drop start ++ others) ∧
      ∀ expr after,
        (ofTokens ((tokens.take (place + 1)).drop start ++ others)).parse ≠ (.ok expr, after)) := by
  intro place
  obtain ⟨rest, failed, after⟩ := (parse_eq_error_iff.mp failed).resolve_left (by simp [inhabited])
  obtain ⟨seen, unread, split, seenAt, ⟨expr, formula, completed⟩, wrong⟩ :=
    expression_failed_at failed shallow
  have split : tokens.drop start = seen ++ unread := split
  have reached : place = start + seen.length := by
    rcases seenAt with ⟨isKey, key, rfl⟩ | ⟨notKey, rfl⟩
    · have passed : tokens.drop start = (seen ++ [key]) ++ rest := by simpa using split
      rw [advanceTo_eq passed, Cursor.mk.injEq] at after
      simp only [place, isKey, if_true, after.2, List.length_append, List.length_singleton]
      omega
    · rw [advanceTo_eq split, Cursor.mk.injEq] at after
      simp only [place, notKey, if_false, after.2]
  have window : ∀ more, (tokens.take (place + more)).drop start = seen ++ unread.take more := by
    intro more
    rw [reached, drop_take_of_split split]
  refine ⟨⟨expr, [zero], formula, List.cons_ne_nil _ _, ?_⟩, fun inside others => ?_⟩
  · have passed := window 0
    rw [Nat.add_zero, List.take_zero, List.append_nil] at passed
    rw [completed, passed]
  · obtain ⟨token, behind, rfl⟩ : ∃ token behind, unread = token :: behind := by
      apply List.exists_cons_of_ne_nil
      intro empty
      have lengths := congrArg List.length split
      simp only [empty, List.length_drop, List.append_nil] at lengths
      omega
    rw [window 1, List.take_succ_cons, List.take_zero, List.append_assoc, List.singleton_append]
    refine ⟨fun other isFormula tokens => ?_, fun other after parsed => ?_⟩
    · obtain ⟨levels, nests⟩ := isFormula.exists_nests
      obtain ⟨left, failed⟩ :=
        wrong token behind rfl (max maxDepth levels) (Nat.le_max_left _ _) others
      have found : expression (max maxDepth levels) other.tokens = .found other [] :=
        expression_eq_found_iff.mpr ⟨isFormula, nests.mono (Nat.le_max_right _ _), by simp,
          by simp [PathStops], by simp⟩
      rw [tokens, failed] at found
      cases found
    · obtain ⟨left, failed⟩ := wrong token behind rfl maxDepth (Nat.le_refl _) others
      obtain ⟨rest, found, -⟩ := parse_eq_ok_iff_found.mp parsed
      rw [remaining, ofTokens, List.drop_zero, failed] at found
      cases found

/-- In `1 * )` the parenthesis is the first wrong token. -/
theorem parse_failed_correct_prefix_isolated_operator :
    let one : Token := ⟨.integer, "1", .start⟩
    let times : Token := ⟨.symbol, "*", ⟨1, 1, 2⟩⟩
    let closing : Token := ⟨.symbol, ")", ⟨2, 1, 3⟩⟩
    Cursor.parse ⟨[one, times, closing], 0⟩ =
        (.error (.grammatical .isolatedOperator (some times)), ⟨[one, times, closing], 2⟩) ∧
      (∃ expr more, IsFormula expr ∧ more ≠ [] ∧ expr.tokens = [one, times] ++ more) ∧
      ∀ others : List Token,
        (∀ expr, IsFormula expr → expr.tokens ≠ [one, times, closing] ++ others) ∧
        ∀ expr after, (ofTokens ([one, times, closing] ++ others)).parse ≠ (.ok expr, after) := by
  intro one times closing
  have failed : Cursor.parse ⟨[one, times, closing], 0⟩ =
      (.error (.grammatical .isolatedOperator (some times)), ⟨[one, times, closing], 2⟩) := rfl
  obtain ⟨started, wrong⟩ := parse_failed_correct_prefix failed nofun nofun
  exact ⟨failed, started, wrong (by decide)⟩

end Cursor

end DataFormula
