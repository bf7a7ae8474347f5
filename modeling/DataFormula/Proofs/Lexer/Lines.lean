import DataFormula.Proofs.Lexer.Tiling

/-!
# Texts below each other

What stands on the lines below a text is read as if it stood alone, except that its
places are further down (`Lexer.tokens_below`). The line feed between the two ends every
name, number and comment of the upper one (`Lexer.tokens_append_newline`). Only one thing
is carried over: behind a point a number is a key, so that a number with digits behind a
point falls apart there (`Lexer.tokens_behind_point`). Together this is
`tokenize_append_newline`.
-/

namespace DataFormula

namespace Position

/-- The same place, once the lines of `above` stand over its text. -/
def below (above : List Char) (position : Position) : Position :=
  ⟨position.offset + (above.length + 1), position.line + (above.count '\n' + 1), position.column⟩

variable {above : List Char}

theorem advance_below (position : Position) (c : Char) :
    (position.below above).advance c = (position.advance c).below above := by
  unfold advance
  split <;> simp [below] <;> omega

theorem after_below (position : Position) (text : List Char) :
    (position.below above).after text = (position.after text).below above := by
  induction text generalizing position with
  | nil => rfl
  | cons c text ih => rw [after_cons, advance_below, ih, after_cons]

theorem below_behind_nil : (behind []).below above = behind (above ++ ['\n']) := by
  simp [behind, below, Nat.add_comm]

end Position

/-- The same token, once the lines of `above` stand over its text. -/
def Token.below (above : List Char) (token : Token) : Token :=
  { token with position := token.position.below above }

/-- The same error, once the lines of `above` stand over its text. -/
def SyntaxError.below (above : List Char) : SyntaxError → SyntaxError
  | lexical cause position => lexical cause (position.below above)
  | grammatical cause token => grammatical cause (token.map (Token.below above))

namespace Lexer

open Lexeme

/-! ## Further down -/

/-- The same lexer, once the lines of `above` stand over its text. -/
def below (above : List Char) (lexer : Lexer) : Lexer :=
  { lexer with position := lexer.position.below above }

section Below

variable {above : List Char}

theorem skip_below (lexer : Lexer) (count : Nat) :
    (lexer.below above).skip count = (lexer.skip count).below above := by
  simp [skip, below, Position.after_below]

theorem skipGap_below (lexer : Lexer) :
    (lexer.below above).skipGap = lexer.skipGap.below above := by
  exact skip_below lexer _

/-- One step further down: the answer and the lexer behind it are further down, too. -/
theorem next_below (lexer : Lexer) :
    (lexer.below above).next =
      ((lexer.next.1.map (Option.map (Token.below above))).mapError (SyntaxError.below above),
        lexer.next.2.below above) := by
  unfold next
  simp only [skipGap_below]
  generalize lexer.skipGap = lexer
  have text : (lexer.below above).rest = lexer.rest := rfl
  have flag : (lexer.below above).afterPoint = lexer.afterPoint := rfl
  simp only [skip_below, text, flag]
  cases lexer.rest with
  | nil => rfl
  | cons c text =>
      cases reading : read lexer.afterPoint c text <;> simp only [reading] <;> rfl

/-- **Further down.** A lexer gives the same tokens further down, or fails there alike. -/
theorem tokens_below (lexer : Lexer) :
    (lexer.below above).tokens =
      (lexer.tokens.map (List.map (Token.below above))).mapError (SyntaxError.below above) := by
  induction size : lexer.rest.length using Nat.strongRecOn generalizing lexer with
  | ind length ih =>
      have step : (lexer.below above).next = _ := next_below lexer
      cases result : lexer.next with
      | mk answer after =>
          rw [result] at step
          match answer with
          | .error error =>
              rw [tokens_of_error step, tokens_of_error result]
              rfl
          | .ok none =>
              rw [tokens_of_none step, tokens_of_none result]
              rfl
          | .ok (some token) =>
              have shorter := length_rest_lt_of_next result
              rw [size] at shorter
              rw [tokens_of_some step, tokens_of_some result, ih _ shorter after rfl]
              cases after.tokens <;> rfl

end Below

end Lexer

namespace Lexeme

open Text

/-! ## In front of a line feed -/

section Newline

variable {belongs : Char → Bool} {key : Bool} {kind : TokenKind}
  {run gap further data lexeme rest : List Char}

theorem IsRun.append_newline (isRun : IsRun belongs run rest) (more : List Char)
    (newline : belongs '\n' = false) : IsRun belongs run (rest ++ '\n' :: more) := by
  refine ⟨isRun.all, ?_⟩
  intro c member
  cases rest with
  | nil =>
      obtain rfl : '\n' = c := Option.some.inj member
      exact newline
  | cons first rest => exact isRun.stops c member

theorem isNamePart_newline : isNamePart '\n' = false := by decide +kernel

theorem IsName.append_newline (isName : IsName data rest) (more : List Char) :
    IsName data (rest ++ '\n' :: more) :=
  ⟨isName.1, isName.2.append_newline more isNamePart_newline⟩

theorem IsNumeral.append_newline (isNumeral : IsNumeral data rest) (more : List Char) :
    IsNumeral data (rest ++ '\n' :: more) :=
  ⟨isNumeral.1, isNumeral.2.append_newline more rfl⟩

/-- A line feed goes on with no lexeme. -/
theorem Spells.append_newline (spells : Spells key kind data lexeme rest) (more : List Char) :
    Spells key kind data lexeme (rest ++ '\n' :: more) := by
  cases spells with
  | symbol member => exact .symbol member
  | identifier isName => exact .identifier (isName.append_newline more)
  | namedReference isName => exact .namedReference (isName.append_newline more)
  | numberedReference isNumeral => exact .numberedReference (isNumeral.append_newline more)
  | integer isNumeral whole =>
      apply Spells.integer (isNumeral.append_newline more)
      intro noKey digit behind split
      match rest with
      | [] => cases split
      | [c] =>
          cases split
          rfl
      | c :: next :: others =>
          cases split
          exact whole noKey _ _ rfl
  | float noKey isWhole isFraction =>
      apply Spells.float noKey _ (isFraction.append_newline more)
      exact ⟨isWhole.1, isWhole.2.all, isWhole.2.stops⟩
  | string isQuote writes => exact .string isQuote writes

/-- A gap only depends on the first character behind it. -/
theorem IsGap.of_head?_eq {other : List Char} (isGap : IsGap gap rest)
    (alike : other.head? = rest.head?) : IsGap gap other := by
  induction isGap with
  | nil => exact .nil
  | blank blank _ ih => exact .blank blank (ih alike)
  | @comment line gap rest sameLine stops _ ih =>
      apply IsGap.comment sameLine _ (ih alike)
      cases gap with
      | nil =>
          rw [List.nil_append] at stops ⊢
          rwa [alike]
      | cons c gap => exact stops

/-- A gap goes on behind a line feed, which ends its last comment. -/
theorem IsGap.append_newline (isGap : IsGap gap []) (others : IsGap further rest) :
    IsGap (gap ++ '\n' :: further) rest := by
  generalize ends : ([] : List Char) = left at isGap
  induction isGap with
  | nil => exact .blank (by decide) others
  | blank blank _ ih => exact .blank blank (ih ends)
  | @comment line gap left sameLine stops _ ih =>
      rw [List.append_assoc]
      apply IsGap.comment sameLine _ (ih ends)
      subst ends
      cases gap with
      | nil => simp
      | cons c gap => exact stops

end Newline

end Lexeme

namespace Lexer

open Lexeme

/-! ## Behind a line feed -/

section Join

variable {before text more : List Char} {afterPoint : Bool} {tokens : List Token}
  {first second : Lexer}

/-- What a lexer gives depends on what it finds behind the gap before it. -/
theorem next_eq_of_skipGap_eq (same : first.skipGap = second.skipGap) :
    first.next = second.next := by
  unfold next
  rw [same]

theorem tokens_eq_of_next_eq (same : first.next = second.next) :
    first.tokens = second.tokens := by
  cases result : second.next with
  | mk answer after =>
      rw [result] at same
      match answer with
      | .error error => rw [tokens_of_error same, tokens_of_error result]
      | .ok none => rw [tokens_of_none same, tokens_of_none result]
      | .ok (some token) => rw [tokens_of_some same, tokens_of_some result]

/-- The last gap of a text and the first one below it are one. -/
theorem skipGap_newline {gap : List Char} (isGap : IsGap gap []) :
    (⟨gap ++ '\n' :: more, .behind before, afterPoint⟩ : Lexer).skipGap =
      (⟨more, .behind (before ++ gap ++ ['\n']), afterPoint⟩ : Lexer).skipGap := by
  obtain ⟨⟨further, rest, rfl, others, noGap⟩, -⟩ := exists_gap more
  have joined := skipGap_eq before afterPoint (isGap.append_newline others) noGap
  rw [skipGap_eq _ afterPoint others noGap]
  simpa using joined

/-- Whether a lexer stands behind a point once it has given some tokens. -/
def pointAfter (afterPoint : Bool) (tokens : List Token) : Bool :=
  tokens.foldl (fun _ token => token.isSymbol ".") afterPoint

theorem pointAfter_cons {token : Token} :
    pointAfter afterPoint (token :: tokens) = pointAfter (token.isSymbol ".") tokens := rfl

/-- **Line by line.** Behind the tokens of a text come those of the lines below it. -/
theorem tokens_append_newline (tiles : Tiles before afterPoint text tokens) (more : List Char) :
    (⟨text ++ '\n' :: more, .behind before, afterPoint⟩ : Lexer).tokens =
      (⟨more, .behind (before ++ text ++ ['\n']), pointAfter afterPoint tokens⟩ :
        Lexer).tokens.map (tokens ++ ·) := by
  induction tiles with
  | @done before gap afterPoint isGap =>
      rw [tokens_eq_of_next_eq (next_eq_of_skipGap_eq (skipGap_newline isGap))]
      exact (congrFun Except.map_id _).symm
  | @token before gap data lexeme rest afterPoint kind token others isGap spells same _ ih =>
      have isGap : IsGap gap (lexeme ++ (rest ++ '\n' :: more)) := by
        apply isGap.of_head?_eq
        obtain ⟨c, inner, rfl, -⟩ := spells.head
        rfl
      have step := next_of_spells isGap (spells.append_newline more) same
      simp only [List.append_assoc, pointAfter_cons] at step ih ⊢
      rw [tokens_of_some step, ih]
      cases Lexer.tokens _ <;> rfl

end Join

end Lexer

namespace Token

/-- A number with a point in it is written as digits, the point and digits. -/
structure HasParts (float : Token) (whole fraction : List Char) : Prop where
  kind : float.kind = .float
  data : float.data = .ofList (whole ++ '.' :: fraction)
  whole : whole ≠ [] ∧ ∀ c ∈ whole, c.isDigit = true
  fraction : fraction ≠ [] ∧ ∀ c ∈ fraction, c.isDigit = true

/-- The tokens that such a number falls apart into where its first digits are a key. -/
def parts (float : Token) (whole fraction : List Char) : List Token :=
  [⟨.integer, .ofList whole, float.position⟩,
    ⟨.symbol, ".", float.position.after whole⟩,
    ⟨.integer, .ofList fraction, float.position.after (whole ++ ['.'])⟩]

end Token

namespace Lexeme

/-! ## Behind a point -/

section Key

variable {key other : Bool} {kind : TokenKind} {data lexeme rest : List Char}

/-- A lexeme that is no number with a point in it is the same behind a point. -/
theorem Spells.key_of_ne_float (spells : Spells key kind data lexeme rest)
    (noFloat : kind ≠ .float) : Spells true kind data lexeme rest := by
  cases spells with
  | symbol member => exact .symbol member
  | identifier isName => exact .identifier isName
  | namedReference isName => exact .namedReference isName
  | numberedReference isNumeral => exact .numberedReference isNumeral
  | integer isNumeral whole => exact .integer isNumeral nofun
  | float => exact absurd rfl noFloat
  | string isQuote writes => exact .string isQuote writes

/-- Where nothing can be read, a point before it does not help. -/
theorem read_eq_failure_key {c : Char} {text : List Char} {cause : LexicalCause}
    {place stop : Nat} (failed : read key c text = .failure cause place stop) :
    read other c text = .failure cause place stop := by
  by_cases digit : c.isDigit = true
  · rw [read_of_isDigit digit] at failed
    exact absurd failed (readNumber_ne_failure digit)
  · simpa [read, digit] using failed

end Key

end Lexeme

namespace Lexer

open Lexeme

section Point

variable {gap lexeme data rest : List Char} {kind : TokenKind}

/-- A lexer gives the token that is spelled behind a gap, and then those behind it. -/
theorem tokens_of_spells (before : List Char) {afterPoint : Bool} (pointed : Bool)
    (isGap : IsGap gap (lexeme ++ rest)) (spells : Spells afterPoint kind data lexeme rest)
    (flag : (⟨kind, .ofList data, .behind (before ++ gap)⟩ : Token).isSymbol "." = pointed) :
    (⟨gap ++ (lexeme ++ rest), .behind before, afterPoint⟩ : Lexer).tokens =
      (⟨rest, .behind (before ++ gap ++ lexeme), pointed⟩ : Lexer).tokens.map
        (⟨kind, .ofList data, .behind (before ++ gap)⟩ :: ·) := by
  subst flag
  exact tokens_of_some (next_of_spells isGap spells rfl)

theorem kind_of_head_tokens {before : List Char} {afterPoint : Bool} {tokens : List Token}
    (isGap : IsGap gap (lexeme ++ rest)) (spells : Spells afterPoint kind data lexeme rest)
    (given : (⟨gap ++ (lexeme ++ rest), .behind before, afterPoint⟩ : Lexer).tokens =
      .ok tokens) : ∀ first ∈ tokens.head?, first.kind = kind := by
  rw [tokens_of_spells before _ isGap spells rfl] at given
  cases others : Lexer.tokens _ with
  | error error =>
      rw [others] at given
      cases given
  | ok behind =>
      rw [others] at given
      cases given
      intro first head
      cases head
      rfl

/-- Behind a point the parts of a number are given one by one. -/
theorem tokens_of_parts {before whole fraction : List Char} {float : Token}
    (isGap : IsGap gap (whole ++ '.' :: (fraction ++ rest)))
    (isWhole : IsNumeral whole ('.' :: (fraction ++ rest))) (isFraction : IsNumeral fraction rest)
    (starts : float.position = .behind (before ++ gap)) :
    (⟨gap ++ (whole ++ '.' :: (fraction ++ rest)), .behind before, true⟩ : Lexer).tokens =
      (⟨rest, .behind (before ++ gap ++ (whole ++ '.' :: fraction)), false⟩ : Lexer).tokens.map
        (float.parts whole fraction ++ ·) := by
  have first := tokens_of_spells before false isGap
    (.integer isWhole nofun : Spells true _ _ _ _) rfl
  have second := tokens_of_spells (before ++ gap ++ whole) true .nil
    (.symbol (by decide : '.' ∈ punctuation) : Spells false _ _ _ (fraction ++ rest)) rfl
  have third := tokens_of_spells (before ++ gap ++ whole ++ ['.']) false .nil
    (.integer isFraction nofun : Spells true _ _ _ _) rfl
  simp only [List.append_assoc, List.nil_append, List.append_nil, List.singleton_append]
    at first second third ⊢
  rw [first, second, third]
  simp only [Token.parts, starts, Position.after_behind, List.append_assoc]
  cases Lexer.tokens _ <;> rfl

/-- **Behind a point.** A lexer behind a point gives the tokens it would give elsewhere,
except that a number with a point in it falls apart if it is the first of them. -/
theorem tokens_behind_point (before text : List Char) :
    ((⟨text, .behind before, true⟩ : Lexer).tokens =
        (⟨text, .behind before, false⟩ : Lexer).tokens ∧
      ∀ tokens, (⟨text, .behind before, false⟩ : Lexer).tokens = .ok tokens →
        ∀ first ∈ tokens.head?, first.kind ≠ .float) ∨
    ∃ (float : Token) (whole fraction : List Char) (after : Lexer),
      float.HasParts whole fraction ∧
      (⟨text, .behind before, false⟩ : Lexer).tokens = after.tokens.map (float :: ·) ∧
      (⟨text, .behind before, true⟩ : Lexer).tokens =
        after.tokens.map (float.parts whole fraction ++ ·) := by
  rcases text_cases false text with isGap | ⟨gap, kind, data, lexeme, rest, rfl, isGap, spells⟩ |
    ⟨gap, c, rest, cause, place, stop, rfl, isGap, noGap, failed⟩
  · left
    rw [tokens_of_none (next_of_gap isGap), tokens_of_none (next_of_gap isGap)]
    refine ⟨rfl, ?_⟩
    intro tokens given
    cases given
    nofun
  · by_cases noFloat : kind ≠ .float
    · left
      refine ⟨?_, ?_⟩
      · rw [tokens_of_spells before _ isGap (spells.key_of_ne_float noFloat) rfl,
          tokens_of_spells before _ isGap spells rfl]
      · intro tokens given first head
        rwa [kind_of_head_tokens isGap spells given first head]
    · right
      cases spells with
      | @float whole fraction _ noKey isWhole isFraction =>
          let float : Token := ⟨.float, .ofList (whole ++ '.' :: fraction), .behind (before ++ gap)⟩
          have free := tokens_of_spells before false isGap (.float noKey isWhole isFraction) rfl
          have parts : float.HasParts whole fraction :=
            ⟨rfl, rfl, ⟨isWhole.1, isWhole.2.all⟩, ⟨isFraction.1, isFraction.2.all⟩⟩
          refine ⟨float, whole, fraction, _, parts, free, ?_⟩
          have split : whole ++ '.' :: fraction ++ rest = whole ++ '.' :: (fraction ++ rest) := by
            simp
          rw [split] at isGap ⊢
          exact tokens_of_parts isGap isWhole isFraction rfl
      | _ => exact absurd nofun noFloat
  · left
    rw [tokens_of_error (next_of_failure isGap noGap failed),
      tokens_of_error (next_of_failure isGap noGap (read_eq_failure_key failed))]
    exact ⟨rfl, nofun⟩

end Point

theorem pointAfter_false_iff {tokens : List Token} :
    pointAfter false tokens = true ↔ ∃ last ∈ tokens.getLast?, last.isSymbol "." = true := by
  rcases List.eq_nil_or_concat tokens with rfl | ⟨front, last, rfl⟩
  · simp [pointAfter]
  · simp [pointAfter]

end Lexer

/-- The tokens of a text with another one below it, in terms of a lexer that starts there. -/
theorem tokenize_lines {first : String} {tokens : List Token}
    (given : tokenize first = .ok tokens) (second : String) :
    tokenize (first ++ "\n" ++ second) =
      (((⟨second.toList, .start, Lexer.pointAfter false tokens⟩ : Lexer).tokens.map
        (List.map (Token.below first.toList))).mapError
          (SyntaxError.below first.toList)).map (tokens ++ ·) := by
  have tiles := Lexer.tiles_of_tokenize given
  have joined := Lexer.tokens_append_newline tiles second.toList
  have text : (first ++ "\n" ++ second).toList = first.toList ++ '\n' :: second.toList := by
    simp
  rw [tokenize, Lexer.ofString, text, ← Position.behind_nil, joined, ← Lexer.tokens_below,
    Lexer.below, Position.below_behind_nil, List.nil_append]

/-- **Tokenizing goes line by line.** With a text below another one that has tokens, the
tokens of both are given one behind the other, or the error of the lower one, and all
places of the lower one are further down. Only where the upper text ends with a point, and
the lower one starts with a number with a point in it, does that number fall apart. -/
theorem tokenize_append_newline {first second : String} {tokens : List Token}
    (given : tokenize first = .ok tokens) :
    (∀ error, tokenize second = .error error →
      tokenize (first ++ "\n" ++ second) = .error (error.below first.toList)) ∧
    ∀ others, tokenize second = .ok others →
      (¬ ((∃ last ∈ tokens.getLast?, last.isSymbol "." = true) ∧
          ∃ float ∈ others.head?, float.kind = .float) →
        tokenize (first ++ "\n" ++ second) =
          .ok (tokens ++ others.map (Token.below first.toList))) ∧
      ∀ float behind, others = float :: behind → float.kind = .float →
        (∃ last ∈ tokens.getLast?, last.isSymbol "." = true) →
          ∃ whole fraction, float.HasParts whole fraction ∧
            tokenize (first ++ "\n" ++ second) =
              .ok (tokens ++
                (float.parts whole fraction ++ behind).map (Token.below first.toList)) := by
  rw [tokenize_lines given second, ← Lexer.pointAfter_false_iff]
  have free : tokenize second = (⟨second.toList, .start, false⟩ : Lexer).tokens := rfl
  rw [free]
  cases Lexer.pointAfter false tokens with
  | false =>
      refine ⟨fun error failed => ?_, fun others found => ?_⟩
      · rw [failed]
        rfl
      · rw [found]
        exact ⟨fun _ => rfl, nofun⟩
  | true =>
      rcases Lexer.tokens_behind_point [] second.toList with ⟨same, noFloat⟩ |
        ⟨float, whole, fraction, after, parts, single, several⟩
      · rw [Position.behind_nil] at same noFloat
        rw [same]
        refine ⟨fun error failed => ?_, fun others found => ?_⟩
        · rw [failed]
          rfl
        · rw [found]
          refine ⟨fun _ => rfl, ?_⟩
          rintro float behind rfl isFloat
          exact absurd isFloat (noFloat _ found float rfl)
      · rw [Position.behind_nil] at single several
        rw [single, several]
        cases after.tokens with
        | error other =>
            refine ⟨fun error failed => ?_, nofun⟩
            cases failed
            rfl
        | ok further =>
            refine ⟨nofun, fun others found => ?_⟩
            cases found
            refine ⟨fun exempt => absurd ⟨rfl, float, rfl, parts.kind⟩ exempt, ?_⟩
            intro first' behind same _ _
            cases same
            exact ⟨whole, fraction, parts, rfl⟩

theorem tokenize_append_newline_of_point :
    tokenize "1." = .ok [⟨.integer, "1", ⟨0, 1, 1⟩⟩, ⟨.symbol, ".", ⟨1, 1, 2⟩⟩] ∧
      tokenize "2.3" = .ok [⟨.float, "2.3", ⟨0, 1, 1⟩⟩] ∧
      ∃ whole fraction, (⟨.float, "2.3", ⟨0, 1, 1⟩⟩ : Token).HasParts whole fraction ∧
        tokenize ("1." ++ "\n" ++ "2.3") =
          .ok ([⟨.integer, "1", ⟨0, 1, 1⟩⟩, ⟨.symbol, ".", ⟨1, 1, 2⟩⟩] ++
            ((⟨.float, "2.3", ⟨0, 1, 1⟩⟩ : Token).parts whole fraction ++ []).map
              (Token.below ['1', '.'])) := by
  have upper : tokenize "1." =
      .ok [⟨.integer, "1", ⟨0, 1, 1⟩⟩, ⟨.symbol, ".", ⟨1, 1, 2⟩⟩] := by
    have number : (Lexer.ofString "1.").next =
        (.ok (some ⟨.integer, "1", ⟨0, 1, 1⟩⟩), ⟨['.'], ⟨1, 1, 2⟩, false⟩) := rfl
    have point : (⟨['.'], ⟨1, 1, 2⟩, false⟩ : Lexer).next =
        (.ok (some ⟨.symbol, ".", ⟨1, 1, 2⟩⟩), ⟨[], ⟨2, 1, 3⟩, true⟩) := rfl
    have ends : (⟨[], ⟨2, 1, 3⟩, true⟩ : Lexer).tokens = .ok [] := Lexer.tokens_of_none rfl
    rw [tokenize, Lexer.tokens_of_some number, Lexer.tokens_of_some point, ends]
    rfl
  have lower : tokenize "2.3" = .ok [⟨.float, "2.3", ⟨0, 1, 1⟩⟩] := by
    have number : (Lexer.ofString "2.3").next =
        (.ok (some ⟨.float, "2.3", ⟨0, 1, 1⟩⟩), ⟨[], ⟨3, 1, 4⟩, false⟩) := rfl
    have ends : (⟨[], ⟨3, 1, 4⟩, false⟩ : Lexer).tokens = .ok [] := Lexer.tokens_of_none rfl
    rw [tokenize, Lexer.tokens_of_some number, ends]
    rfl
  refine ⟨upper, lower, ?_⟩
  have joined := (tokenize_append_newline upper).2 _ lower
  exact joined.2 _ _ rfl rfl ⟨_, rfl, rfl⟩

end DataFormula
