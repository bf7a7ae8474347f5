import DataFormula.Proofs.Grammar.Exactness
import Mathlib.Data.List.Nodup

/-!
# What errors point at

Where the grammar fails, it has read some tokens and leaves the others, and it blames
the last token it has read or the first one it leaves. `Grammar.PointsAt` lists the
places at which errors are raised, each with the token it blames and with what stands
around it. No rule fails anywhere else (`Grammar.expression_failsAt`), so the report of
a cursor that fails can be trusted (`Cursor.parse_error_points`). Only two errors blame
no token: that of an empty input, and that of a product which has no level left and
ends behind its operator.
-/

namespace DataFormula

namespace GrammarCause

/-- The causes that the grammar knows. -/
def named : List GrammarCause :=
  [emptyInput, loneNegation, missingTerm, isolatedOperator, missingExpression, missingKey,
    invalidKey, tooDeep]

theorem named_messages_nodup : (named.map message).Nodup := by decide

/-- The wording tells a cause. -/
theorem eq_of_message_eq {first second : GrammarCause} (known : first ∈ named)
    (other : second ∈ named) (same : first.message = second.message) : first = second :=
  List.inj_on_of_nodup_map named_messages_nodup known other same

end GrammarCause

namespace Grammar

/-- An error is raised behind `read` and before `rest`, and blames a token. -/
inductive PointsAt (read rest : List Token) : GrammarCause → Option Token → Prop where
  | emptyInput (unread : read = []) (ends : rest = []) : PointsAt read rest .emptyInput none
  | loneNegation {sign : Token} (last : read.getLast? = some sign)
      (signed : sign.isSymbol "-" = true) (ends : rest = []) :
      PointsAt read rest .loneNegation (some sign)
  | missingTerm {next : Token} (first : rest.head? = some next)
      (wrong : startsFactor next = false) : PointsAt read rest .missingTerm (some next)
  | isolatedOperator {token : Token} {operator : Operator} (last : read.getLast? = some token)
      (spelled : multiplicative? token = some operator)
      (wrong : ∀ next ∈ rest.head?, startsFactor next = false) :
      PointsAt read rest .isolatedOperator (some token)
  | missingExpression {token : Token} {operator : Operator} (last : read.getLast? = some token)
      (spelled : additive? token = some operator) (ends : rest = []) :
      PointsAt read rest .missingExpression (some token)
  | missingKey {point : Token} (last : read.getLast? = some point)
      (spelled : point.isSymbol "." = true) (ends : rest = []) :
      PointsAt read rest .missingKey (some point)
  | invalidKey {front : List Token} {point token : Token} (passed : read = front ++ [point, token])
      (spelled : point.isSymbol "." = true) (wrong : token.kind = .float ∨ token.kind = .symbol) :
      PointsAt read rest .invalidKey (some token)
  | deepAccessor {point : Token} (last : read.getLast? = some point)
      (spelled : point.isSymbol "." = true) : PointsAt read rest .tooDeep (some point)
  | deepOperand {token next : Token} {operator : Operator} (last : read.getLast? = some token)
      (spelled : Operator.ofToken? token = some operator) (first : rest.head? = some next) :
      PointsAt read rest .tooDeep (some next)
  | deepEnd {token : Token} {operator : Operator} (last : read.getLast? = some token)
      (spelled : multiplicative? token = some operator) (ends : rest = []) :
      PointsAt read rest .tooDeep none

theorem PointsAt.mem_named {read rest : List Token} {cause : GrammarCause}
    {blamed : Option Token} (points : PointsAt read rest cause blamed) :
    cause ∈ GrammarCause.named := by
  cases points <;> decide

/-- Behind `before`, a rule reads some of the tokens and raises an error that points at
the place where it stops. -/
def FailsAt (before tokens : List Token) (error : SyntaxError) (rest : List Token) : Prop :=
  ∃ seen cause blamed, tokens = seen ++ rest ∧ error = .grammatical cause blamed ∧
    PointsAt (before ++ seen) rest cause blamed

section Failures

variable {levels : Nat} {before tokens rest : List Token} {error : SyntaxError}

/-- A rule that fails at once. -/
theorem FailsAt.here {cause : GrammarCause} {blamed : Option Token}
    (points : PointsAt before rest cause blamed) :
    FailsAt before rest (.grammatical cause blamed) rest := by
  refine ⟨[], cause, blamed, rfl, rfl, ?_⟩
  rwa [List.append_nil]

/-- A rule that fails further on, behind tokens of its own. -/
theorem FailsAt.further (front : List Token)
    (fails : FailsAt (before ++ front) tokens error rest) :
    FailsAt before (front ++ tokens) error rest := by
  obtain ⟨seen, cause, blamed, split, same, points⟩ := fails
  refine ⟨front ++ seen, cause, blamed, ?_, same, ?_⟩
  · rw [split, List.append_assoc]
  · rwa [← List.append_assoc]

theorem FailsAt.suffix (fails : FailsAt before tokens error rest) : rest <:+ tokens := by
  obtain ⟨seen, -, -, split, -⟩ := fails
  exact ⟨seen, split.symm⟩

/-- A token behind a point is no key if it is a `float` or a symbol. -/
theorem kind_of_key?_eq_none {token : Token} (noKey : key? token = none) :
    token.kind = .float ∨ token.kind = .symbol := by
  cases kind : token.kind with
  | float => exact .inl rfl
  | symbol => exact .inr rfl
  | _ => simp [key?, kind] at noKey

theorem accessors_failsAt {object : Expr}
    (failed : accessors levels object tokens = .failed error rest) :
    FailsAt before tokens error rest := by
  fun_induction accessors levels object tokens generalizing before with
  | case1 => cases failed
  | case2 object point behind spelled =>
      cases failed
      apply FailsAt.further [point]
      exact .here (.deepAccessor (by simp) spelled)
  | case3 => cases failed
  | case4 levels object point spelled =>
      cases failed
      apply FailsAt.further [point]
      exact .here (.missingKey (by simp) spelled rfl)
  | case5 levels object point spelled token others key isKey ih =>
      apply FailsAt.further [point, token]
      exact ih failed
  | case6 levels object point spelled token others noKey =>
      cases failed
      apply FailsAt.further [point, token]
      exact .here (.invalidKey rfl spelled (kind_of_key?_eq_none noKey))
  | case7 => cases failed

theorem reference_failsAt (failed : reference levels tokens = .failed error rest) :
    FailsAt before tokens error rest := by
  cases tokens with
  | nil => cases failed
  | cons token behind =>
      by_cases kind : token.kind = .reference
      · rw [reference, if_pos kind] at failed
        apply FailsAt.further [token]
        exact accessors_failsAt failed
      · rw [reference, if_neg kind] at failed
        cases failed

theorem factor_failsAt (failed : factor levels tokens = .failed error rest) :
    FailsAt before tokens error rest := by
  obtain ⟨token, behind, rfl, -, failed⟩ := factor_eq_failed_iff.mp failed
  apply FailsAt.further [token]
  exact accessors_failsAt failed

/-- The last token read is an operator, of the tighter level if the tokens end there. A
rule without a level left is only tried at such a place. -/
def OperandDue (before tokens : List Token) : Prop :=
  ∃ token operator, before.getLast? = some token ∧ Operator.ofToken? token = some operator ∧
    (tokens = [] → multiplicative? token = some operator)

theorem operandDue_of_multiplicative {token : Token} {operator : Operator}
    (spelled : multiplicative? token = some operator) :
    OperandDue (before ++ [token]) tokens :=
  ⟨token, operator, by simp, (multiplicative?_eq_some_iff.mp spelled).1, fun _ => spelled⟩

theorem operandDue_of_additive {token : Token} {operator : Operator}
    (spelled : additive? token = some operator) (inhabited : tokens ≠ []) :
    OperandDue (before ++ [token]) tokens :=
  ⟨token, operator, by simp, (additive?_eq_some_iff.mp spelled).1,
    fun empty => absurd empty inhabited⟩

/-- Behind a `*`, an operand is due whatever follows. -/
theorem exists_operandDue (tokens : List Token) : ∃ before, OperandDue before tokens := by
  let times : Token := ⟨.symbol, "*", .start⟩
  have spelled : multiplicative? times = some .multiply := by decide
  exact ⟨[] ++ [times], operandDue_of_multiplicative spelled⟩

/-- The depth is reported at the operand that is due, if there is one. -/
theorem OperandDue.failsAt (due : OperandDue before tokens) :
    FailsAt before tokens (.grammatical .tooDeep tokens.head?) tokens := by
  obtain ⟨token, operator, last, spelled, atEnd⟩ := due
  cases tokens with
  | nil => exact .here (.deepEnd last (atEnd rfl) rfl)
  | cons next others => exact .here (.deepOperand last spelled rfl)

theorem term_failsAt (failed : term levels tokens = .failed error rest)
    (due : levels = 0 → OperandDue before tokens) : FailsAt before tokens error rest := by
  induction levels generalizing before tokens with
  | zero =>
      cases failed
      exact (due rfl).failsAt
  | succ levels ih =>
      rw [term, chain_eq_failed_iff] at failed
      rcases failed with first | ⟨left, token, behind, operator, first, spelled, second⟩
      · exact factor_failsAt first
      · obtain ⟨-, -, rfl, -⟩ := factor_eq_found_iff.mp first
        rw [← List.singleton_append, ← List.append_assoc]
        apply FailsAt.further (left.tokens ++ [token])
        rw [← List.append_assoc]
        rcases second with ⟨absent, rfl, rfl⟩ | second
        · refine .here (.isolatedOperator (by simp) spelled ?_)
          cases levels with
          | zero => cases absent
          | succ levels => exact term_succ_eq_absent_iff.mp absent
        · exact ih second fun _ => operandDue_of_multiplicative spelled

/-- Where a sum fails, if it is known where the expression behind its operator does. That
has a level left, since the sum has found a term before it. -/
theorem sum_failsAt_of
    (further : ∀ {deeper before tokens}, levels = deeper + 1 →
      expression levels tokens = .failed error rest →
        (tokens ≠ [] → OperandDue before tokens) → FailsAt before tokens error rest)
    (failed : sum levels tokens = .failed error rest) (inhabited : tokens ≠ [])
    (due : levels = 0 → OperandDue before tokens) : FailsAt before tokens error rest := by
  rw [sum, chain_eq_failed_iff] at failed
  rcases failed with first | ⟨left, token, behind, operator, first, spelled, second⟩
  · rcases demand_eq_failed_iff.mp first with first | ⟨absent, rfl, rfl⟩
    · exact term_failsAt first due
    · obtain ⟨next, others, rfl⟩ := List.exists_cons_of_ne_nil inhabited
      cases levels with
      | zero => cases absent
      | succ levels =>
          exact .here (.missingTerm rfl (term_succ_eq_absent_iff.mp absent next rfl))
  · obtain ⟨-, nests, rfl, -⟩ := term_eq_found_iff.mp (demand_eq_found_iff.mp first)
    cases levels with
    | zero => exact absurd nests (not_termNests_zero left)
    | succ deeper =>
        rw [← List.singleton_append, ← List.append_assoc]
        apply FailsAt.further (left.tokens ++ [token])
        rw [← List.append_assoc]
        rcases second with ⟨absent, rfl, rfl⟩ | second
        · exact .here (.missingExpression (by simp) spelled
            (expression_succ_eq_absent_iff.mp absent))
        · exact further rfl second (operandDue_of_additive spelled)

/-- Where an expression fails, if it is known where the sum behind its sign does. -/
theorem expression_failsAt_of
    (sumFails : ∀ {before tokens}, sum levels tokens = .failed error rest → tokens ≠ [] →
      (levels = 0 → OperandDue before tokens) → FailsAt before tokens error rest)
    (failed : expression (levels + 1) tokens = .failed error rest)
    (due : tokens ≠ [] → levels = 0 → OperandDue before tokens) :
    FailsAt before tokens error rest := by
  rcases expression_succ_eq_failed_iff.mp failed with ⟨sign, rfl, signed, rfl, rfl⟩ |
    ⟨sign, behind, rfl, signed, inhabited, failed⟩ | ⟨first, behind, rfl, -, failed⟩
  · apply FailsAt.further [sign]
    exact .here (.loneNegation (by simp) signed rfl)
  · apply FailsAt.further [sign]
    apply sumFails failed inhabited
    intro _
    exact operandDue_of_additive (additive?_eq_some_of_sign signed) inhabited
  · exact sumFails failed (List.cons_ne_nil _ _) (due (List.cons_ne_nil _ _))

theorem sum_failsAt (failed : sum levels tokens = .failed error rest) (inhabited : tokens ≠ [])
    (due : levels = 0 → OperandDue before tokens) : FailsAt before tokens error rest := by
  induction levels generalizing before tokens with
  | zero =>
      apply sum_failsAt_of _ failed inhabited due
      intro deeper _ _ same
      cases same
  | succ levels ih =>
      apply sum_failsAt_of _ failed inhabited due
      intro _ _ _ _ failed due
      exact expression_failsAt_of ih failed fun inhabited _ => due inhabited

/-- **Errors point where they are raised.** Wherever an expression fails, the error blames
the token that its place says. -/
theorem expression_failsAt (failed : expression (levels + 1) tokens = .failed error rest)
    (due : tokens ≠ [] → levels = 0 → OperandDue before tokens) :
    FailsAt before tokens error rest :=
  expression_failsAt_of sum_failsAt failed due

/-- With levels to start on, nothing before an expression decides where it fails. -/
theorem expression_failed_pointsAt
    (failed : expression (levels + 2) tokens = .failed error rest) :
    ∃ seen cause blamed, tokens = seen ++ rest ∧ error = .grammatical cause blamed ∧
      PointsAt seen rest cause blamed := by
  have fails : FailsAt [] tokens error rest := by
    apply expression_failsAt failed
    intro _ none
    exact absurd none (Nat.succ_ne_zero _)
  exact fails

end Failures

end Grammar

namespace Cursor

open Grammar

/-- A cursor fails at the end of its tokens, or behind some of them that the grammar has
read. -/
theorem exists_split_of_failed {tokens : List Token} {start : Nat} {error : SyntaxError}
    {after : Cursor} (failed : Cursor.parse ⟨tokens, start⟩ = (.error error, after)) :
    ∃ seen rest cause blamed, tokens.drop start = seen ++ rest ∧
      after = ⟨tokens, start + seen.length⟩ ∧ error = .grammatical cause blamed ∧
      PointsAt seen rest cause blamed := by
  rcases parse_eq_error_iff.mp failed with ⟨empty, rfl, rfl⟩ | ⟨rest, below, rfl⟩
  · exact ⟨[], [], _, _, empty, rfl, rfl, .emptyInput rfl rfl⟩
  · obtain ⟨seen, cause, blamed, split, same, points⟩ := expression_failed_pointsAt below
    exact ⟨seen, rest, cause, blamed, split, advanceTo_eq split, same, points⟩

/-- **Error reports point where they say.** A cursor that fails has moved forward and
stands among its tokens. The error comes from the parser, its place is that of the token
it blames, and exactly one cause has its wording and points at the place where the cursor
stands. -/
theorem parse_error_points {tokens : List Token} {start : Nat} {error : SyntaxError}
    (inside : start ≤ tokens.length)
    (failed : (Cursor.parse ⟨tokens, start⟩).1 = .error error) :
    let stop := (Cursor.parse ⟨tokens, start⟩).2.position
    (start ≤ stop ∧ stop ≤ tokens.length) ∧ error.origin = .parser ∧
      error.position? = error.token?.map (·.position) ∧
      ∃! cause, error.message = cause.message ∧
        PointsAt ((tokens.take stop).drop start) (tokens.drop stop) cause error.token? := by
  intro stop
  have parsed : Cursor.parse ⟨tokens, start⟩ = (.error error, (Cursor.parse ⟨tokens, start⟩).2) :=
    Prod.ext failed rfl
  obtain ⟨seen, rest, cause, blamed, split, after, rfl, points⟩ := exists_split_of_failed parsed
  have reached : stop = start + seen.length := congrArg Cursor.position after
  have read : (tokens.take stop).drop start = seen := by
    have window := drop_take_of_split split 0
    rwa [Nat.add_zero, List.take_zero, List.append_nil, ← reached] at window
  have left : tokens.drop stop = rest := by rw [reached, drop_of_split split]
  have bounded : stop ≤ tokens.length := by
    have lengths := congrArg List.length split
    simp only [List.length_drop, List.length_append] at lengths
    omega
  rw [read, left]
  refine ⟨⟨by omega, bounded⟩, rfl, rfl, cause, ⟨rfl, points⟩, ?_⟩
  rintro other ⟨same, alsoPoints⟩
  exact GrammarCause.eq_of_message_eq alsoPoints.mem_named points.mem_named same.symm

/-- A product that has no level left and ends behind its operator leaves nothing to blame. -/
theorem parse_error_points_at_deep_end :
    let one : Token := ⟨.integer, "1", .start⟩
    let times : Token := ⟨.symbol, "*", ⟨1, 1, 2⟩⟩
    let tokens := (List.replicate 127 [one, times]).flatten
    (Cursor.parse ⟨tokens, 0⟩).1 = .error (.grammatical .tooDeep none) ∧
      ∃! cause, SyntaxError.message (.grammatical .tooDeep none) = cause.message ∧
        PointsAt tokens [] cause none := by
  intro one times tokens
  have failed : (Cursor.parse ⟨tokens, 0⟩).1 = .error (.grammatical .tooDeep none) := by
    decide +kernel
  refine ⟨failed, ?_⟩
  have stop : (Cursor.parse ⟨tokens, 0⟩).2.position = 254 := by decide +kernel
  have window : (tokens.take 254).drop 0 = tokens ∧ tokens.drop 254 = [] := by decide +kernel
  have points := (parse_error_points (Nat.zero_le _) failed).2.2.2
  rw [stop, window.1, window.2] at points
  exact points

end Cursor

end DataFormula
