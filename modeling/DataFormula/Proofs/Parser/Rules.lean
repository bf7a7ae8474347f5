import DataFormula.Parser
import DataFormula.Proofs.Grammar.Blame

/-!
# What parsers do

A parser that stands before some tokens at some depth (`Parsing.Stands`) comes to what the
grammar says about those tokens on the levels that are left, and then stands before the
tokens that the grammar leaves, at the depth it had. On its way the count of levels stays
within its bounds. Each rule gets one lemma; the rules that nest follow by induction on the
levels that are left, and those say how much fuel is enough. So a parser comes to what
`Cursor.parse` does (`Parsing.parse_leadsTo`).
-/

namespace DataFormula

open Grammar (maxDepth)

/-- A cursor that has some tokens behind it. -/
def Cursor.before (tokens here : List Token) : Cursor := ⟨tokens, tokens.length - here.length⟩

namespace Cursor

variable {tokens here rest : List Token} {token : Token} {cause : GrammarCause}

theorem remaining_before (inside : here <:+ tokens) : (before tokens here).remaining = here :=
  (List.suffix_iff_eq_drop.mp inside).symm

theorem peek?_before (inside : here <:+ tokens) : (before tokens here).peek? = here.head? :=
  calc (before tokens here).peek? = (before tokens here).remaining.head? := List.head?_drop.symm
    _ = here.head? := by rw [remaining_before inside]

theorem hasNext_before (inside : here <:+ tokens) :
    (before tokens here).hasNext = !here.isEmpty := by
  have bounded := inside.length_le
  cases here with
  | nil => simp [hasNext, before]
  | cons token rest =>
      rw [List.length_cons] at bounded
      have below : tokens.length - (rest.length + 1) < tokens.length := by omega
      simp [hasNext, before, below]

theorem next_before_cons (inside : token :: rest <:+ tokens) :
    (before tokens (token :: rest)).next = (some token, before tokens rest) := by
  have bounded := inside.length_le
  rw [List.length_cons] at bounded
  have moved : tokens.length - (rest.length + 1) + 1 = tokens.length - rest.length := by omega
  rw [next, peek?_before inside]
  simp [before, moved]

theorem next_before_nil : (before tokens []).next = (none, before tokens []) := by
  rw [next, peek?_before List.nil_suffix]
  rfl

theorem returnToken_before : (before tokens rest).returnToken = before tokens (token :: rest) := by
  simp [returnToken, before, Nat.sub_sub]

theorem setPosition_before :
    (before tokens here).setPosition (tokens.length - rest.length) = before tokens rest := by
  simp [setPosition, before]

theorem requireNext_before_cons (inside : token :: rest <:+ tokens) :
    (before tokens (token :: rest)).requireNext cause = (.ok token, before tokens rest) := by
  simp [requireNext, next_before_cons inside]

theorem requireNext_before_nil (inside : [token] <:+ tokens) :
    (before tokens []).requireNext cause =
      (.error (.grammatical cause (some token)), before tokens []) := by
  rw [requireNext, next_before_nil]
  obtain ⟨front, rfl⟩ := inside
  simp [last?, before]

theorem advanceTo_before (inside : here <:+ tokens) (behind : rest <:+ here) :
    (before tokens here).advanceTo rest = before tokens rest := by
  have bounded := inside.length_le
  have shorter := behind.length_le
  rw [advanceTo, remaining_before inside]
  simp only [before, Cursor.mk.injEq, true_and]
  omega

end Cursor

namespace Outcome

/-- The same outcome, or a failure if it is absent. -/
def orFailed (error : SyntaxError) (here : List Token) : Outcome → Outcome
  | absent => failed error here
  | outcome => outcome

theorem map_id (outcome : Outcome) : outcome.map id = outcome := by
  cases outcome <;> rfl

end Outcome

namespace Grammar

variable {operand more : List Token → Outcome} {operator? : Token → Option Operator}
  {missing : GrammarCause} {tokens behind : List Token} {left : Expr} {token : Token}
  {operator : Operator}

theorem demand_eq_orFailed :
    demand more missing tokens =
      (more tokens).orFailed (.grammatical missing tokens.head?) tokens := by
  cases outcome : more tokens <;> simp [demand, outcome, Outcome.orFailed]

theorem chain_eq_orFailed (found : operand tokens = .found left (token :: behind))
    (spelled : operator? token = some operator) :
    chain operand more operator? missing tokens =
      ((more behind).orFailed (.grammatical missing (some token)) behind).map
        (.operation operator token left) := by
  rw [chain_of_operator found spelled]
  cases more behind <;> rfl

end Grammar

namespace Parsing

/-- A parser stands before the last of its tokens, at a depth, and its count of levels has
never been below zero nor above the levels of a formula. -/
structure Stands (tokens here : List Token) (depth : Int) (parser : Parser) : Prop where
  cursor : parser.cursor = .before tokens here
  inside : here <:+ tokens
  depth : parser.depth = depth
  bounded : ∀ value ∈ parser.depths, 0 ≤ value ∧ value ≤ maxDepth

section Places

variable {tokens here : List Token} {depth : Int} {parser : Parser}

theorem Stands.unread (stands : Stands tokens here depth parser) :
    parser.cursor.remaining = here := by
  rw [stands.cursor, Cursor.remaining_before stands.inside]

theorem Stands.position_add_length (stands : Stands tokens here depth parser) :
    parser.cursor.position + here.length = tokens.length := by
  rw [stands.cursor]
  exact Nat.sub_add_cancel stands.inside.length_le

end Places

variable {α β : Type}

/-! ## Runs -/

/-- From parsers of one kind, something comes to a result and to a parser of another kind. -/
def LeadsTo (before : Parser → Prop) (parsing : Parsing α) (result : Except SyntaxError α)
    (after : Parser → Prop) : Prop :=
  ∀ parser, before parser → ∃ last, parsing.run.run parser = some (result, last) ∧ after last

section Runs

variable {before between after : Parser → Prop} {first : Parsing α} {second : α → Parsing β}
  {answer : α} {result : Except SyntaxError β} {error : SyntaxError}

theorem leadsTo_pure (answer : α) : LeadsTo before (pure answer) (.ok answer) before :=
  fun parser here => ⟨parser, rfl, here⟩

theorem leadsTo_throw (error : SyntaxError) :
    LeadsTo before (throw error : Parsing α) (.error error) before :=
  fun parser here => ⟨parser, rfl, here⟩

theorem LeadsTo.bind (leads : LeadsTo before first (.ok answer) between)
    (further : LeadsTo between (second answer) result after) :
    LeadsTo before (first >>= second) result after := by
  intro parser here
  obtain ⟨middle, ran, there⟩ := leads parser here
  obtain ⟨last, ran', beyond⟩ := further middle there
  refine ⟨last, ?_, beyond⟩
  rw [ExceptT.run_bind, StateT.run_bind, ran]
  exact ran'

theorem LeadsTo.bind_error (leads : LeadsTo before first (.error error) after) :
    LeadsTo before (first >>= second) (.error error) after := by
  intro parser here
  obtain ⟨last, ran, there⟩ := leads parser here
  refine ⟨last, ?_, there⟩
  rw [ExceptT.run_bind, StateT.run_bind, ran]
  rfl

end Runs

/-! ## Cursors and the count of levels -/

variable {tokens here rest : List Token} {token : Token} {depth : Int} {cause : GrammarCause}

theorem leadsTo_withCursor {act : Cursor → α × Cursor} {answer : α}
    (acts : here <:+ tokens → act (.before tokens here) = (answer, .before tokens rest) ∧
      rest <:+ tokens) :
    LeadsTo (Stands tokens here depth) (withCursor act) (.ok answer)
      (Stands tokens rest depth) := by
  intro parser stands
  obtain ⟨acted, inside⟩ := acts stands.inside
  rw [← stands.cursor] at acted
  refine ⟨{ parser with cursor := .before tokens rest }, ?_, rfl, inside, stands.depth,
    stands.bounded⟩
  calc (withCursor act).run.run parser
    _ = some (.ok (act parser.cursor).1, { parser with cursor := (act parser.cursor).2 }) := rfl
    _ = some (.ok answer, { parser with cursor := .before tokens rest }) := by rw [acted]

theorem leadsTo_next_cons :
    LeadsTo (Stands tokens (token :: rest) depth) next (.ok (some token))
      (Stands tokens rest depth) :=
  leadsTo_withCursor fun inside =>
    ⟨Cursor.next_before_cons inside, (List.suffix_cons token rest).trans inside⟩

theorem leadsTo_next_nil :
    LeadsTo (Stands tokens [] depth) next (.ok none) (Stands tokens [] depth) :=
  leadsTo_withCursor fun inside => ⟨Cursor.next_before_nil, inside⟩

theorem leadsTo_peek :
    LeadsTo (Stands tokens here depth) peek (.ok here.head?) (Stands tokens here depth) :=
  leadsTo_withCursor fun inside => ⟨by rw [Cursor.peek?_before inside], inside⟩

theorem leadsTo_hasNext :
    LeadsTo (Stands tokens here depth) hasNext (.ok !here.isEmpty) (Stands tokens here depth) :=
  leadsTo_withCursor fun inside => ⟨by rw [Cursor.hasNext_before inside], inside⟩

theorem leadsTo_returnToken (inside : token :: rest <:+ tokens) :
    LeadsTo (Stands tokens rest depth) returnToken (.ok ())
      (Stands tokens (token :: rest) depth) :=
  leadsTo_withCursor fun _ => ⟨by rw [Cursor.returnToken_before], inside⟩

theorem leadsTo_position :
    LeadsTo (Stands tokens here depth) position (.ok (tokens.length - here.length))
      (Stands tokens here depth) :=
  leadsTo_withCursor fun inside => ⟨rfl, inside⟩

theorem leadsTo_setPosition (inside : rest <:+ tokens) :
    LeadsTo (Stands tokens here depth) (setPosition (tokens.length - rest.length)) (.ok ())
      (Stands tokens rest depth) :=
  leadsTo_withCursor fun _ => ⟨by rw [Cursor.setPosition_before], inside⟩

theorem leadsTo_requireNext_cons :
    LeadsTo (Stands tokens (token :: rest) depth) (requireNext cause) (.ok token)
      (Stands tokens rest depth) := by
  apply LeadsTo.bind (leadsTo_withCursor fun inside =>
    ⟨Cursor.requireNext_before_cons inside, (List.suffix_cons token rest).trans inside⟩)
  exact leadsTo_pure token

theorem leadsTo_requireNext_nil (inside : [token] <:+ tokens) :
    LeadsTo (Stands tokens [] depth) (requireNext cause)
      (.error (.grammatical cause (some token))) (Stands tokens [] depth) := by
  apply LeadsTo.bind (leadsTo_withCursor fun _ =>
    ⟨Cursor.requireNext_before_nil inside, List.nil_suffix⟩)
  exact leadsTo_throw _

theorem leadsTo_depth :
    LeadsTo (Stands tokens here depth) Parsing.depth (.ok depth) (Stands tokens here depth) := by
  intro parser stands
  refine ⟨parser, ?_, stands⟩
  rw [← stands.depth]
  rfl

theorem leadsTo_count {step : Int} (within : 0 ≤ depth + step ∧ depth + step ≤ maxDepth) :
    LeadsTo (Stands tokens here depth) (count step) (.ok ())
      (Stands tokens here (depth + step)) := by
  intro parser stands
  refine ⟨_, rfl, stands.cursor, stands.inside, congrArg (· + step) stands.depth, ?_⟩
  intro value member
  rcases List.mem_cons.mp member with rfl | earlier
  · rwa [stands.depth]
  · exact stands.bounded value earlier

theorem leadsTo_failHere :
    LeadsTo (Stands tokens here depth) (failHere cause : Parsing α)
      (.error (.grammatical cause here.head?)) (Stands tokens here depth) :=
  leadsTo_peek.bind (leadsTo_throw _)

/-- A rule one level further down comes back to the depth it was called at. -/
theorem leadsTo_nested {rule : Parsing α} {result : Except SyntaxError α}
    (within : 0 ≤ depth ∧ depth < maxDepth)
    (leads : LeadsTo (Stands tokens here (depth + 1)) rule result
      (Stands tokens rest (depth + 1))) :
    LeadsTo (Stands tokens here depth) (nested rule) result (Stands tokens rest depth) := by
  have up : 0 ≤ depth + 1 ∧ depth + 1 ≤ maxDepth := by omega
  have down : 0 ≤ depth + 1 + -1 ∧ depth + 1 + -1 ≤ maxDepth := by omega
  have same : depth + 1 + -1 = depth := by omega
  refine leadsTo_depth.bind ?_
  rw [if_neg (by omega)]
  refine (leadsTo_count up).bind ?_
  intro parser stands
  obtain ⟨middle, ran, there⟩ := leads parser stands
  obtain ⟨last, counted, beyond⟩ := leadsTo_count down middle there
  rw [same] at beyond
  refine ⟨last, ?_, beyond⟩
  -- What the way back has to say is dropped, so it is not a case of `LeadsTo.bind`.
  change (rule.run.run parser >>= fun ran =>
    (count (-1)).run.run ran.2 >>= fun counted => some (ran.1, counted.2)) = _
  rw [ran]
  change ((count (-1)).run.run middle >>= fun counted => some (result, counted.2)) = _
  rw [counted]
  rfl

/-- Without a level left, a rule is not tried. -/
theorem leadsTo_nested_tooDeep {rule : Parsing α} :
    LeadsTo (Stands tokens here maxDepth) (nested rule)
      (.error (.grammatical .tooDeep here.head?)) (Stands tokens here maxDepth) := by
  refine leadsTo_depth.bind ?_
  rw [if_pos (Int.le_refl _)]
  exact leadsTo_failHere

/-! ## Rules -/

/-- From the place at which the grammar answers with an outcome, a rule comes to that
outcome, and to a place before the tokens that it leaves. -/
def Meets (tokens here : List Token) (depth : Int) (rule : Parsing (Option Expr)) :
    Outcome → Prop
  | .absent => LeadsTo (Stands tokens here depth) rule (.ok none) (Stands tokens here depth)
  | .found expr rest =>
    LeadsTo (Stands tokens here depth) rule (.ok (some expr)) (Stands tokens rest depth)
  | .failed error rest =>
    LeadsTo (Stands tokens here depth) rule (.error error) (Stands tokens rest depth)

/-- The same for a rule that is never absent. -/
def Finds (tokens here : List Token) (depth : Int) (rule : Parsing Expr) : Outcome → Prop
  | .absent => False
  | .found expr rest =>
    LeadsTo (Stands tokens here depth) rule (.ok expr) (Stands tokens rest depth)
  | .failed error rest =>
    LeadsTo (Stands tokens here depth) rule (.error error) (Stands tokens rest depth)

/-- What holds at a place may use that the place is one among the tokens. -/
theorem LeadsTo.of_inside {rule : Parsing α} {result : Except SyntaxError α}
    {after : Parser → Prop}
    (leads : here <:+ tokens → LeadsTo (Stands tokens here depth) rule result after) :
    LeadsTo (Stands tokens here depth) rule result after :=
  fun parser stands => leads stands.inside parser stands

/-- A rule that goes on like another one comes to the same. -/
theorem Meets.of_leads {first second : Parsing (Option Expr)} {outcome : Outcome}
    (meets : Meets tokens here depth first outcome)
    (same : ∀ {result after}, LeadsTo (Stands tokens here depth) first result after →
      LeadsTo (Stands tokens here depth) second result after) :
    Meets tokens here depth second outcome := by
  cases outcome with
  | absent => exact same meets
  | found expr rest => exact same meets
  | failed error rest => exact same meets

theorem Finds.of_leads {place : List Token} {first second : Parsing Expr} {outcome : Outcome}
    (finds : Finds tokens here depth first outcome)
    (same : ∀ {result after}, LeadsTo (Stands tokens here depth) first result after →
      LeadsTo (Stands tokens place depth) second result after) :
    Finds tokens place depth second outcome := by
  cases outcome with
  | absent => exact finds
  | found expr rest => exact same finds
  | failed error rest => exact same finds

/-- A rule that must find something, with something done to what it has found. -/
theorem Finds.meets {place : List Token} {rule : Parsing Expr} {whole : Parsing (Option Expr)}
    {outcome : Outcome} {f : Expr → Expr} (finds : Finds tokens here depth rule outcome)
    (same : ∀ {result after},
      LeadsTo (Stands tokens here depth) (do return some (f (← rule))) result after →
        LeadsTo (Stands tokens place depth) whole result after) :
    Meets tokens place depth whole (outcome.map f) := by
  cases outcome with
  | absent => exact finds.elim
  | found expr rest => exact same (finds.bind (leadsTo_pure _))
  | failed error rest => exact same finds.bind_error

/-- A rule that must find something fails where it would be absent. -/
theorem Meets.require {rule : Parsing (Option Expr)} {otherwise : Parsing Expr}
    {outcome : Outcome} {error : SyntaxError} (meets : Meets tokens here depth rule outcome)
    (fails : LeadsTo (Stands tokens here depth) otherwise (.error error)
      (Stands tokens here depth)) :
    Finds tokens here depth (require rule otherwise) (outcome.orFailed error here) := by
  cases outcome with
  | absent => exact meets.bind fails
  | found expr rest => exact meets.bind (leadsTo_pure expr)
  | failed error rest => exact meets.bind_error

/-- A rule one level further down comes to the same. -/
theorem Meets.nested {rule : Parsing (Option Expr)} {outcome : Outcome}
    (meets : Meets tokens here (depth + 1) rule outcome) (within : 0 ≤ depth ∧ depth < maxDepth) :
    Meets tokens here depth (nested rule) outcome := by
  cases outcome with
  | absent => exact leadsTo_nested within meets
  | found expr rest => exact leadsTo_nested within meets
  | failed error rest => exact leadsTo_nested within meets

variable {levels fuel : Nat}

theorem literal_meets : Meets tokens here depth literal (Grammar.literal here) := by
  cases here with
  | nil => exact leadsTo_next_nil.bind (leadsTo_pure none)
  | cons token rest =>
      by_cases spelled : Grammar.isLiteral token = true
      · rw [Grammar.literal, if_pos spelled]
        refine leadsTo_next_cons.bind ?_
        simp only [if_pos spelled]
        exact leadsTo_pure _
      · rw [Grammar.literal, if_neg spelled]
        refine LeadsTo.of_inside fun inside => leadsTo_next_cons.bind ?_
        simp only [if_neg spelled]
        exact (leadsTo_returnToken inside).bind (leadsTo_pure none)

/-- The loop over accessors stops before a token that is no point. -/
theorem accessors_stops {length : Nat} {object : Expr} {point : Token}
    (other : ¬ point.isSymbol "." = true) :
    LeadsTo (Stands tokens (point :: rest) depth) (accessors (fuel + 1) length object)
      (.ok object) (Stands tokens (point :: rest) depth) := by
  refine LeadsTo.of_inside fun inside => leadsTo_next_cons.bind ?_
  simp only [if_neg other]
  exact (leadsTo_returnToken inside).bind (leadsTo_pure object)

/-- The loop over accessors goes on behind a point if there is a level for one more. -/
theorem accessors_goes_on {length : Nat} {object : Expr} {point : Token}
    (spelled : point.isSymbol "." = true) (fits : depth + (length + 1 : Nat) ≤ maxDepth)
    {result : Except SyntaxError Expr} {after : Parser → Prop}
    (further : LeadsTo (Stands tokens here depth)
      (do
        let token ← requireNext .missingKey
        match Grammar.key? token with
        | some key => accessors fuel (length + 1) (.access point object key)
        | none => throw (.grammatical .invalidKey (some token))) result after) :
    LeadsTo (Stands tokens (point :: here) depth) (accessors (fuel + 1) length object)
      result after := by
  refine leadsTo_next_cons.bind ?_
  simp only [if_pos spelled]
  refine leadsTo_depth.bind ?_
  rwa [if_neg (Int.not_lt.mpr fits)]

theorem accessors_finds {length : Nat} {object : Expr}
    (balance : depth + length + levels = maxDepth) (enough : levels < fuel) :
    Finds tokens here depth (accessors fuel length object)
      (Grammar.accessors levels object here) := by
  obtain ⟨fuel, rfl⟩ := Nat.exists_eq_add_one_of_ne_zero (Nat.ne_zero_of_lt enough)
  -- A turn of the loop takes one level and adds one to the length, so the balance is kept.
  fun_induction Grammar.accessors levels object here generalizing fuel length with
  | case1 => exact leadsTo_next_nil.bind (leadsTo_pure _)
  | case2 object point rest spelled =>
      refine leadsTo_next_cons.bind ?_
      simp only [if_pos spelled]
      refine leadsTo_depth.bind ?_
      rw [if_pos (by omega)]
      exact leadsTo_throw _
  | case3 object point rest other => exact accessors_stops other
  | case4 levels object point spelled =>
      refine LeadsTo.of_inside fun inside => accessors_goes_on spelled (by omega) ?_
      exact (leadsTo_requireNext_nil inside).bind_error
  | case5 levels object point spelled token rest key isKey ih =>
      obtain ⟨fuel, rfl⟩ := Nat.exists_eq_add_one_of_ne_zero (n := fuel) (by omega)
      have further : Finds tokens rest depth (accessors (fuel + 1) (length + 1) _) _ :=
        ih (by omega) fuel (by omega)
      refine further.of_leads fun leads => accessors_goes_on spelled (by omega) ?_
      refine leadsTo_requireNext_cons.bind ?_
      rw [isKey]
      exact leads
  | case6 levels object point spelled token rest noKey =>
      refine accessors_goes_on spelled (by omega) ?_
      refine leadsTo_requireNext_cons.bind ?_
      rw [noKey]
      exact leadsTo_throw _
  | case7 levels object point rest other => exact accessors_stops other

theorem reference_meets (balance : depth + levels = maxDepth) (enough : levels < fuel) :
    Meets tokens here depth (reference fuel) (Grammar.reference levels here) := by
  cases here with
  | nil => exact leadsTo_next_nil.bind (leadsTo_pure none)
  | cons token rest =>
      by_cases kind : token.kind = .reference
      · rw [Grammar.reference, if_pos kind]
        have further : Finds tokens rest depth (accessors fuel 0 (.reference token)) _ :=
          accessors_finds (by omega) enough
        rw [← Outcome.map_id (Grammar.accessors levels (.reference token) rest)]
        refine further.meets fun leads => leadsTo_next_cons.bind ?_
        simp only [if_pos kind]
        exact leads
      · rw [Grammar.reference, if_neg kind]
        refine LeadsTo.of_inside fun inside => leadsTo_next_cons.bind ?_
        simp only [if_neg kind]
        exact (leadsTo_returnToken inside).bind (leadsTo_pure none)

theorem factor_meets (balance : depth + levels = maxDepth) (enough : levels < fuel) :
    Meets tokens here depth (factor fuel) (Grammar.factor levels here) := by
  have first : Meets tokens here depth literal _ := literal_meets
  have second : Meets tokens here depth (reference fuel) _ := reference_meets balance enough
  rw [Grammar.factor]
  cases literal : Grammar.literal here with
  | absent =>
      rw [literal] at first
      exact second.of_leads fun leads => first.bind leads
  | found expr rest =>
      rw [literal] at first
      exact first.bind (leadsTo_pure _)
  | failed error rest => exact absurd literal (Grammar.literal_ne_failed here error rest)

/-- What a term comes to, if it is known what the term behind its operator does. -/
theorem term_meets_of
    (further : ∀ {here}, Meets tokens here depth (nested (term fuel)) (Grammar.term levels here))
    (balance : depth + levels = maxDepth) (enough : levels < fuel) :
    Meets tokens here depth (term (fuel + 1)) (Grammar.term (levels + 1) here) := by
  have first : Meets tokens here depth (factor fuel) (Grammar.factor levels here) :=
    factor_meets balance enough
  rw [Grammar.term]
  rcases Grammar.chain_cases (Grammar.factor levels) Grammar.multiplicative? here with absent |
    ⟨error, rest, failed⟩ | ⟨left, rest, found, stops⟩ |
      ⟨left, token, behind, operator, found, spelled⟩
  · rw [Grammar.chain_of_absent absent]
    rw [absent] at first
    exact first.bind (leadsTo_pure none)
  · rw [Grammar.chain_of_failed failed]
    rw [failed] at first
    exact first.bind_error
  · rw [Grammar.chain_of_stop found stops]
    rw [found] at first
    refine first.bind (leadsTo_position.bind (LeadsTo.of_inside fun inside => ?_))
    cases rest with
    | nil =>
        refine leadsTo_next_nil.bind ?_
        exact (leadsTo_setPosition inside).bind (leadsTo_pure _)
    | cons token behind =>
        refine leadsTo_next_cons.bind ?_
        simp only [stops token rfl]
        exact (leadsTo_setPosition inside).bind (leadsTo_pure _)
  · rw [Grammar.chain_eq_orFailed found spelled]
    rw [found] at first
    have second : Finds tokens behind depth (require (nested (term fuel)) _) _ :=
      further.require (leadsTo_throw (.grammatical .isolatedOperator (some token)))
    refine second.meets fun leads => ?_
    refine first.bind (leadsTo_position.bind (leadsTo_next_cons.bind ?_))
    simp only [spelled]
    exact leads

theorem nested_term_meets (positive : 0 ≤ depth) (balance : depth + levels = maxDepth)
    (enough : levels < fuel) :
    Meets tokens here depth (nested (term fuel)) (Grammar.term levels here) := by
  induction levels generalizing here depth fuel with
  | zero =>
      obtain rfl : depth = maxDepth := by omega
      exact leadsTo_nested_tooDeep
  | succ levels ih =>
      obtain ⟨fuel, rfl⟩ := Nat.exists_eq_add_one_of_ne_zero (Nat.ne_zero_of_lt enough)
      have inner : Meets tokens here (depth + 1) (term (fuel + 1))
          (Grammar.term (levels + 1) here) :=
        term_meets_of (ih (by omega) (by omega) (by omega)) (by omega) (by omega)
      exact inner.nested (by omega)

/-- The loop over operands stops before a token that is no additive operator. -/
theorem additions_stops {left : Expr} (stops : ∀ next ∈ here.head?, Grammar.additive? next = none) :
    LeadsTo (Stands tokens here depth) (additions (fuel + 1) left) (.ok left)
      (Stands tokens here depth) := by
  cases here with
  | nil => exact leadsTo_next_nil.bind (leadsTo_pure left)
  | cons token rest =>
      refine LeadsTo.of_inside fun inside => leadsTo_next_cons.bind ?_
      simp only [stops token rfl]
      exact (leadsTo_returnToken inside).bind (leadsTo_pure left)

/-- What a sum comes to, if it is known what the expression behind its operator does. The
loop over operands ends behind that one, since nothing follows it that would go on. -/
theorem sum_finds_of
    (further : ∀ {here}, Meets tokens here depth (nested (expression (fuel + 1)))
      (Grammar.expression levels here))
    (positive : 0 ≤ depth) (balance : depth + levels = maxDepth) (enough : levels ≤ fuel + 1) :
    Finds tokens here depth (sum (fuel + 3)) (Grammar.sum levels here) := by
  have first : Finds tokens here depth
      (require (nested (term (fuel + 2))) (failHere .missingTerm))
      (Grammar.demand (Grammar.term levels) .missingTerm here) := by
    rw [Grammar.demand_eq_orFailed]
    exact (nested_term_meets positive balance (by omega)).require leadsTo_failHere
  rw [Grammar.sum]
  rcases Grammar.chain_cases (Grammar.demand (Grammar.term levels) .missingTerm) Grammar.additive?
    here with absent | ⟨error, rest, failed⟩ | ⟨left, rest, found, stops⟩ |
      ⟨left, token, behind, operator, found, spelled⟩
  · exact absurd absent Grammar.demand_ne_absent
  · rw [Grammar.chain_of_failed failed]
    rw [failed] at first
    exact first.bind_error
  · rw [Grammar.chain_of_stop found stops]
    rw [found] at first
    exact first.bind (additions_stops stops)
  · rw [Grammar.chain_eq_orFailed found spelled]
    rw [found] at first
    have second : Finds tokens behind depth (require (nested (expression (fuel + 1))) _) _ :=
      further.require (leadsTo_throw (.grammatical .missingExpression (some token)))
    have goesOn {result after} (leads : LeadsTo (Stands tokens behind depth)
        (do
          let right ← require (nested (expression (fuel + 1)))
            (throw (.grammatical .missingExpression (some token)))
          additions (fuel + 1) (.operation operator token left right)) result after) :
        LeadsTo (Stands tokens here depth) (sum (fuel + 3)) result after := by
      refine first.bind (leadsTo_next_cons.bind ?_)
      simp only [spelled]
      exact leads
    cases outcome : Grammar.expression levels behind with
    | absent =>
        rw [outcome] at second
        exact goesOn second.bind_error
    | found right rest =>
        rw [outcome] at second
        obtain ⟨-, -, -, -, ends⟩ := Grammar.expression_eq_found_iff.mp outcome
        refine goesOn (second.bind (additions_stops fun next member => ?_))
        exact (Grammar.ofToken?_eq_none_iff.mp (ends next member)).1
    | failed error rest =>
        rw [outcome] at second
        exact goesOn second.bind_error

/-- What an expression comes to, if it is known what the sum behind its sign does. -/
theorem expression_meets_of
    (further : ∀ {here}, Finds tokens here depth (sum fuel) (Grammar.sum levels here)) :
    Meets tokens here depth (expression (fuel + 1)) (Grammar.expression (levels + 1) here) := by
  rcases Grammar.sign_cases here with rfl | ⟨sign, rfl, signed⟩ |
    ⟨sign, rest, rfl, signed, inhabited⟩ | ⟨first, rest, rfl, unsigned⟩
  · exact leadsTo_next_nil.bind (leadsTo_pure none)
  · rw [Grammar.expression_of_lone_sign signed]
    refine leadsTo_next_cons.bind ?_
    simp only [if_pos signed]
    exact leadsTo_hasNext.bind (leadsTo_throw _)
  · rw [Grammar.expression_of_sign signed inhabited]
    have second : Finds tokens rest depth _ _ := further
    refine second.meets fun leads => leadsTo_next_cons.bind ?_
    simp only [if_pos signed]
    refine leadsTo_hasNext.bind ?_
    simpa [inhabited] using leads
  · rw [Grammar.expression_of_no_sign unsigned, ← Outcome.map_id (Grammar.sum levels _)]
    refine further.meets fun leads => LeadsTo.of_inside fun inside => leadsTo_next_cons.bind ?_
    simp only [unsigned]
    exact (leadsTo_returnToken inside).bind leads

/-- Fuel for three calls on each level is enough: one for an expression, one for its sum and
one for the loop over what is added. -/
theorem nested_expression_meets (positive : 0 ≤ depth) (balance : depth + levels = maxDepth)
    (enough : 3 * levels < fuel) :
    Meets tokens here depth (nested (expression fuel)) (Grammar.expression levels here) := by
  induction levels generalizing here depth fuel with
  | zero =>
      obtain rfl : depth = maxDepth := by omega
      exact leadsTo_nested_tooDeep
  | succ levels ih =>
      obtain ⟨fuel, rfl⟩ := Nat.exists_eq_add_of_le (show 4 ≤ fuel by omega)
      rw [Nat.add_comm]
      have inner : Meets tokens here (depth + 1) (expression (fuel + 4))
          (Grammar.expression (levels + 1) here) :=
        expression_meets_of <| sum_finds_of (ih (by omega) (by omega) (by omega)) (by omega)
          (by omega) (by omega)
      exact inner.nested (by omega)

/-- A parser that has been called nowhere comes to what the cursor does, which moves behind
some of the tokens before it, and behind at least one if a formula is found there. -/
theorem parse_leadsTo (inside : here <:+ tokens) (enough : 3 * maxDepth < fuel) :
    ∃ result rest, Cursor.parse (.before tokens here) = (result, .before tokens rest) ∧
      LeadsTo (Stands tokens here 0) (parse fuel) result (Stands tokens rest 0) ∧
        rest <:+ here ∧ ∀ expr, result = .ok expr → rest ≠ here := by
  have remaining := Cursor.remaining_before inside
  by_cases empty : here = []
  · subst empty
    refine ⟨.error (.grammatical .emptyInput none), [], ?_, ?_, List.suffix_rfl, nofun⟩
    · apply Cursor.parse_of_absent
      rw [remaining]
      rfl
    · exact leadsTo_hasNext.bind (leadsTo_throw _)
  · -- The error of the expression that is absent is never seen: there are tokens.
    have further : Finds tokens here 0 (parse fuel) _ :=
      ((nested_expression_meets (Int.le_refl 0) (Int.zero_add _) enough).require
        leadsTo_failHere).of_leads fun leads => leadsTo_hasNext.bind <| by
          rwa [if_pos (by simp [empty])]
    cases outcome : Grammar.expression maxDepth here with
    | absent => exact absurd (Grammar.expression_succ_eq_absent_iff.mp outcome) empty
    | found expr rest =>
        rw [outcome] at further
        obtain ⟨-, -, split, -⟩ := Grammar.expression_eq_found_iff.mp outcome
        have behind : rest <:+ here := ⟨expr.tokens, split.symm⟩
        refine ⟨.ok expr, rest, ?_, further, behind, ?_⟩
        · rw [← Cursor.advanceTo_before inside behind]
          apply Cursor.parse_of_found
          rwa [remaining]
        · rintro - - rfl
          exact expr.tokens_ne_nil (List.append_left_eq_self.mp split.symm)
    | failed error rest =>
        rw [outcome] at further
        obtain ⟨seen, -, -, split, -⟩ := Grammar.expression_failed_pointsAt outcome
        have behind : rest <:+ here := ⟨seen, split.symm⟩
        refine ⟨.error error, rest, ?_, further, behind, nofun⟩
        rw [← Cursor.advanceTo_before inside behind]
        apply Cursor.parse_of_failed
        rwa [remaining]

end Parsing

end DataFormula
