import DataFormula.Proofs.Grammar.Blame

/-!
# Relabelled tokens

The grammar looks at the kind of a token, at the character of a symbol, and at whether a
word is `true` or `false`. A map that keeps these three relabels tokens
(`Token.Relabels`): it may move them and change what they say otherwise. Each rule
answers about relabelled tokens as about the others, with all tokens in its answer
relabelled (`Grammar.expression_relabel`). So does a cursor, which also moves as far over
relabelled tokens (`Cursor.parse_relabel`).
-/

namespace DataFormula

namespace Token

/-- A map of tokens that keeps everything the grammar looks at. -/
structure Relabels (f : Token → Token) : Prop where
  kind : ∀ token, (f token).kind = token.kind
  symbol : ∀ token, token.kind = .symbol → (f token).data = token.data
  boolean : ∀ token, token.kind = .identifier → (f token).isBoolean = token.isBoolean

/-- Tokens may be moved. -/
theorem relabels_of_same {f : Token → Token} (kind : ∀ token, (f token).kind = token.kind)
    (data : ∀ token, (f token).data = token.data) : Relabels f where
  kind := kind
  symbol token _ := data token
  boolean token _ := by simp only [isBoolean, kind, data]

end Token

/-- A tree with another token at every node. -/
def Expr.mapTokens (f : Token → Token) : Expr → Expr
  | value token => value (f token)
  | identifier token => identifier (f token)
  | reference token => reference (f token)
  | operation operator token left right =>
    operation operator (f token) (left.mapTokens f) (right.mapTokens f)
  | negate token operand => negate (f token) (operand.mapTokens f)
  | access token object key => access (f token) (object.mapTokens f) (key.mapTokens f)

theorem Expr.tokens_mapTokens (f : Token → Token) (expr : Expr) :
    (expr.mapTokens f).tokens = expr.tokens.map f := by
  induction expr with
  | value | identifier | reference => rfl
  | operation operator token left right leftIH rightIH =>
      simp only [mapTokens, tokens, leftIH, rightIH, List.map_append, List.map_cons]
  | negate token operand ih => simp only [mapTokens, tokens, ih, List.map_cons]
  | access token object key objectIH keyIH =>
      simp only [mapTokens, tokens, objectIH, keyIH, List.map_append, List.map_cons]

/-- Two changes one after the other are one. -/
theorem Expr.mapTokens_mapTokens (f g : Token → Token) (expr : Expr) :
    (expr.mapTokens f).mapTokens g = expr.mapTokens (g ∘ f) := by
  induction expr with
  | value | identifier | reference => rfl
  | operation operator token left right leftIH rightIH =>
      simp only [mapTokens, leftIH, rightIH, Function.comp_apply]
  | negate token operand ih => simp only [mapTokens, ih, Function.comp_apply]
  | access token object key objectIH keyIH =>
      simp only [mapTokens, objectIH, keyIH, Function.comp_apply]

/-- An error that blames another token. -/
def SyntaxError.mapToken (f : Token → Token) : SyntaxError → SyntaxError
  | lexical cause position => lexical cause position
  | grammatical cause token => grammatical cause (token.map f)

/-- An outcome with another token at every place. -/
def Outcome.mapTokens (f : Token → Token) : Outcome → Outcome
  | absent => absent
  | found expr rest => found (expr.mapTokens f) (rest.map f)
  | failed error rest => failed (error.mapToken f) (rest.map f)

namespace Grammar

section Relabel

variable {f : Token → Token} {token : Token} {levels : Nat}

theorem isSymbol_relabel (relabels : Token.Relabels f) (token : Token) (text : String) :
    (f token).isSymbol text = token.isSymbol text := by
  rw [Bool.eq_iff_iff, isSymbol_iff, isSymbol_iff, relabels.kind]
  exact and_congr_right fun symbol => by rw [relabels.symbol token symbol]

theorem ofToken?_relabel (relabels : Token.Relabels f) (token : Token) :
    Operator.ofToken? (f token) = Operator.ofToken? token := by
  unfold Operator.ofToken?
  rw [relabels.kind]
  split
  · rename_i symbol
    rw [relabels.symbol token symbol]
  · rfl

theorem isLiteral_relabel (relabels : Token.Relabels f) (token : Token) :
    isLiteral (f token) = isLiteral token := by
  unfold isLiteral
  rw [relabels.kind]
  split
  · rfl
  · rfl
  · rfl
  · rename_i word
    exact relabels.boolean token word
  · rfl
  · rfl

theorem key?_relabel (relabels : Token.Relabels f) (token : Token) :
    key? (f token) = (key? token).map (Expr.mapTokens f) := by
  unfold key?
  rw [relabels.kind]
  split <;> rfl

theorem accessors_relabel (relabels : Token.Relabels f) (levels : Nat) (object : Expr)
    (tokens : List Token) :
    accessors levels (object.mapTokens f) (tokens.map f) =
      (accessors levels object tokens).mapTokens f := by
  have same := isSymbol_relabel relabels
  fun_induction accessors levels object tokens with
  | case1 =>
      rw [List.map_nil, accessors]
      rfl
  | case2 object point rest spelled =>
      simp only [List.map_cons, accessors, same, spelled, if_true]
      rfl
  | case3 object point rest other =>
      simp only [List.map_cons, accessors, same, other, Bool.false_eq_true, if_false]
      rfl
  | case4 levels object point spelled =>
      simp only [List.map_cons, List.map_nil, accessors, same, spelled, if_true]
      rfl
  | case5 levels object point spelled token rest key isKey ih =>
      simp only [List.map_cons, accessors, same, spelled, if_true, key?_relabel relabels, isKey,
        Option.map_some]
      exact ih
  | case6 levels object point spelled token rest noKey =>
      simp only [List.map_cons, accessors, same, spelled, if_true, key?_relabel relabels, noKey,
        Option.map_none]
      rfl
  | case7 levels object point rest other =>
      simp only [List.map_cons, accessors, same, other, Bool.false_eq_true, if_false]
      rfl

theorem factor_relabel (relabels : Token.Relabels f) (levels : Nat) (tokens : List Token) :
    factor levels (tokens.map f) = (factor levels tokens).mapTokens f := by
  cases tokens with
  | nil => rfl
  | cons token rest =>
      simp only [factor, literal, reference, List.map_cons, isLiteral_relabel relabels,
        relabels.kind]
      by_cases isLiteral : isLiteral token = true
      · simp only [isLiteral, if_true]
        rfl
      · by_cases kind : token.kind = .reference
        · simp only [isLiteral, Bool.false_eq_true, if_false, kind, if_true]
          exact accessors_relabel relabels levels (.reference token) rest
        · simp only [isLiteral, Bool.false_eq_true, if_false, kind]
          rfl

/-- A chain of rules that do so answers alike about relabelled tokens. -/
theorem chain_relabel {operand more : List Token → Outcome} {operator? : Token → Option Operator}
    (first : ∀ tokens, operand (tokens.map f) = (operand tokens).mapTokens f)
    (further : ∀ tokens, more (tokens.map f) = (more tokens).mapTokens f)
    (same : ∀ token, operator? (f token) = operator? token) (missing : GrammarCause)
    (tokens : List Token) :
    chain operand more operator? missing (tokens.map f) =
      (chain operand more operator? missing tokens).mapTokens f := by
  have start := first tokens
  rcases chain_cases operand operator? tokens with absent | ⟨error, rest, failed⟩ |
    ⟨left, rest, found, stops⟩ | ⟨left, token, behind, operator, found, spelled⟩
  · rw [absent] at start
    rw [chain_of_absent absent, chain_of_absent start]
    rfl
  · rw [failed] at start
    rw [chain_of_failed failed, chain_of_failed start]
    rfl
  · rw [found] at start
    have stops : ∀ next ∈ (rest.map f).head?, operator? next = none := by
      intro next member
      rw [List.head?_map] at member
      obtain ⟨token, here, rfl⟩ := Option.map_eq_some_iff.mp member
      rw [same, stops token here]
    rw [chain_of_stop found (by assumption), chain_of_stop start stops]
    rfl
  · rw [found] at start
    rw [chain_of_operator found spelled, chain_of_operator start (by rw [same, spelled]),
      further behind]
    cases more behind <;> rfl

theorem additive?_relabel (relabels : Token.Relabels f) (token : Token) :
    additive? (f token) = additive? token := by
  rw [additive?, additive?, ofToken?_relabel relabels]

theorem multiplicative?_relabel (relabels : Token.Relabels f) (token : Token) :
    multiplicative? (f token) = multiplicative? token := by
  rw [multiplicative?, multiplicative?, ofToken?_relabel relabels]

theorem tooDeep_relabel (tokens : List Token) :
    tooDeep (tokens.map f) = (tooDeep tokens).mapTokens f := by
  simp only [tooDeep, List.head?_map]
  rfl

theorem demand_relabel {rule : List Token → Outcome}
    (same : ∀ tokens, rule (tokens.map f) = (rule tokens).mapTokens f) (missing : GrammarCause)
    (tokens : List Token) :
    demand rule missing (tokens.map f) = (demand rule missing tokens).mapTokens f := by
  simp only [demand, same]
  cases rule tokens with
  | absent =>
      rw [List.head?_map]
      rfl
  | _ => rfl

theorem term_relabel (relabels : Token.Relabels f) (levels : Nat) (tokens : List Token) :
    term levels (tokens.map f) = (term levels tokens).mapTokens f := by
  induction levels generalizing tokens with
  | zero => exact tooDeep_relabel tokens
  | succ levels ih =>
      exact chain_relabel (factor_relabel relabels levels) ih (multiplicative?_relabel relabels)
        .isolatedOperator tokens

/-- **The grammar is blind.** It answers about relabelled tokens as about the others. -/
theorem expression_relabel (relabels : Token.Relabels f) (levels : Nat) (tokens : List Token) :
    expression levels (tokens.map f) = (expression levels tokens).mapTokens f := by
  induction levels generalizing tokens with
  | zero => exact tooDeep_relabel tokens
  | succ levels ih =>
      have sum_relabel (tokens : List Token) :
          sum levels (tokens.map f) = (sum levels tokens).mapTokens f :=
        chain_relabel (demand_relabel (term_relabel relabels levels) .missingTerm) ih
          (additive?_relabel relabels) .missingExpression tokens
      rcases sign_cases tokens with rfl | ⟨sign, rfl, signed⟩ |
        ⟨sign, rest, rfl, signed, inhabited⟩ | ⟨first, rest, rfl, unsigned⟩
      · rfl
      · have signed' : (f sign).isSymbol "-" = true := by rwa [isSymbol_relabel relabels]
        rw [expression_of_lone_sign signed, List.map_singleton, expression_of_lone_sign signed']
        rfl
      · have signed' : (f sign).isSymbol "-" = true := by rwa [isSymbol_relabel relabels]
        have inhabited' : rest.map f ≠ [] := by simpa using inhabited
        rw [expression_of_sign signed inhabited, List.map_cons,
          expression_of_sign signed' inhabited', sum_relabel]
        cases sum levels rest <;> rfl
      · have unsigned' : (f first).isSymbol "-" = false := by rwa [isSymbol_relabel relabels]
        rw [expression_of_no_sign unsigned, List.map_cons, expression_of_no_sign unsigned',
          ← List.map_cons, sum_relabel]

end Relabel

end Grammar

/-- An error keeps its wording, its stage and its place beside the token it blames. -/
theorem SyntaxError.mapToken_grammatical (f : Token → Token) (cause : GrammarCause)
    (blamed : Option Token) :
    let error := grammatical cause blamed
    (error.mapToken f).message = error.message ∧ (error.mapToken f).origin = error.origin ∧
      (error.mapToken f).token? = error.token?.map f ∧
      (error.mapToken f).position? = (error.token?.map f).map (·.position) :=
  ⟨rfl, rfl, rfl, rfl⟩

namespace Cursor

open Grammar

/-- Parsing never changes the tokens. -/
theorem parse_tokens (cursor : Cursor) : cursor.parse.2.tokens = cursor.tokens := by
  cases outcome : expression maxDepth cursor.remaining with
  | absent => rw [parse_of_absent outcome]
  | found expr rest =>
      rw [parse_of_found outcome]
      rfl
  | failed error rest =>
      rw [parse_of_failed outcome]
      rfl

/-- A cursor over relabelled tokens. -/
def mapTokens (f : Token → Token) (cursor : Cursor) : Cursor :=
  { cursor with tokens := cursor.tokens.map f }

theorem remaining_mapTokens (f : Token → Token) (cursor : Cursor) :
    (cursor.mapTokens f).remaining = cursor.remaining.map f :=
  List.map_drop.symm

theorem advanceTo_mapTokens (f : Token → Token) (cursor : Cursor) (rest : List Token) :
    (cursor.mapTokens f).advanceTo (rest.map f) = (cursor.advanceTo rest).mapTokens f := by
  simp only [advanceTo, remaining_mapTokens, List.length_map]
  rfl

/-- A cursor parses relabelled tokens as it parses the others. -/
theorem parse_mapTokens {f : Token → Token} (relabels : Token.Relabels f) (cursor : Cursor) :
    (cursor.mapTokens f).parse =
      ((cursor.parse.1.map (Expr.mapTokens f)).mapError (SyntaxError.mapToken f),
        cursor.parse.2.mapTokens f) := by
  have blind := expression_relabel relabels maxDepth cursor.remaining
  rw [← remaining_mapTokens] at blind
  cases outcome : expression maxDepth cursor.remaining with
  | absent =>
      rw [outcome] at blind
      rw [parse_of_absent outcome, parse_of_absent blind]
      rfl
  | found expr rest =>
      rw [outcome] at blind
      rw [parse_of_found outcome, parse_of_found blind, advanceTo_mapTokens]
      rfl
  | failed error rest =>
      rw [outcome] at blind
      rw [parse_of_failed outcome, parse_of_failed blind, advanceTo_mapTokens]
      rfl

/-- **The parser is blind to places and payloads.** From any start, a cursor over relabelled
tokens comes to the same result with its tokens relabelled, be it a formula or an error,
and to the same place. An error has the same wording then and comes from the same stage;
it blames the relabelled token and takes its place from it. -/
theorem parse_relabel {f : Token → Token} (relabels : Token.Relabels f) (tokens : List Token)
    (start : Nat) :
    Cursor.parse ⟨tokens.map f, start⟩ =
      (((Cursor.parse ⟨tokens, start⟩).1.map (Expr.mapTokens f)).mapError (SyntaxError.mapToken f),
        ⟨tokens.map f, (Cursor.parse ⟨tokens, start⟩).2.position⟩) ∧
    ∀ error, (Cursor.parse ⟨tokens, start⟩).1 = .error error →
      (error.mapToken f).message = error.message ∧ (error.mapToken f).origin = error.origin ∧
        (error.mapToken f).token? = error.token?.map f ∧
        (error.mapToken f).position? = (error.token?.map f).map (·.position) := by
  have kept : (Cursor.parse ⟨tokens, start⟩).2.tokens = tokens := parse_tokens ⟨tokens, start⟩
  refine ⟨?_, ?_⟩
  · calc Cursor.parse ⟨tokens.map f, start⟩
        = _ := parse_mapTokens relabels ⟨tokens, start⟩
      _ = _ := by rw [mapTokens, kept]
  · intro error failed
    obtain ⟨_, _, cause, blamed, _, _, rfl, _⟩ := exists_split_of_failed (Prod.ext failed rfl)
    exact SyntaxError.mapToken_grammatical f cause blamed

/-- In `1 * $a.true - ) 2` the parenthesis is blamed wherever it stands, and the name of the
reference may be any. -/
theorem parse_relabel_missing_term :
    let f (token : Token) : Token :=
      ⟨token.kind, if token.kind = .symbol ∨ token.isBoolean then token.data else "x",
        ⟨token.position.offset + 7, 3, token.position.column⟩⟩
    let placed (kind : TokenKind) (data : String) (offset : Nat) : Token :=
      ⟨kind, data, ⟨offset, 1, offset + 1⟩⟩
    let tokens := [placed .symbol "-" 0, placed .integer "1" 1, placed .symbol "*" 2,
      placed .reference "a" 3, placed .symbol "." 5, placed .identifier "true" 6,
      placed .symbol "-" 10, placed .symbol ")" 11, placed .integer "2" 12]
    Token.Relabels f ∧
      Cursor.parse ⟨tokens.map f, 1⟩ =
        (.error (.grammatical .missingTerm (some ⟨.symbol, ")", ⟨18, 3, 12⟩⟩)),
          ⟨tokens.map f, 7⟩) := by
  intro f placed tokens
  have relabels : Token.Relabels f := by
    refine ⟨fun _ => rfl, fun token symbol => if_pos (.inl symbol), fun token word => ?_⟩
    by_cases boolean : token.isBoolean = true
    · have data : (f token).data = token.data := if_pos (.inr boolean)
      rw [Token.isBoolean, data]
      rfl
    · have data : (f token).data = "x" := if_neg (by simp [word, boolean])
      rw [Bool.eq_false_iff.mpr boolean, Token.isBoolean, data]
      simp
  refine ⟨relabels, ?_⟩
  rw [(parse_relabel relabels tokens 1).1]
  decide +kernel

end Cursor

end DataFormula
