import DataFormula.Lexer
import DataFormula.Proofs.Lexer.Spelling

/-!
# Tokenizing is tiling

The tokens of a text cut it into gaps and lexemes: `Lexer.Tiles` is that cut, read
from left to right. It says what each lexeme spells, where it starts, and what the
text behind it has to be so that it is not longer. A lexer gives exactly the tokens
of such a cut (`Lexer.tokens_eq_ok_iff`), so no character is lost and none is read
twice.
-/

namespace DataFormula

namespace Position

/-- The place behind a text. The offset counts its characters, the line its line
feeds, and the column the characters behind the last of these. -/
def behind (text : List Char) : Position :=
  ⟨text.length, text.count '\n' + 1, (text.reverse.takeWhile (· != '\n')).length + 1⟩

theorem behind_nil : behind [] = start := rfl

@[simp]
theorem offset_behind (text : List Char) : (behind text).offset = text.length := rfl

theorem advance_behind (text : List Char) (c : Char) :
    (behind text).advance c = behind (text ++ [c]) := by
  unfold advance
  by_cases newline : c = '\n'
  · subst newline
    simp [behind]
  · simp [behind, newline]

/-- Places behind a text are found by passing its characters. -/
theorem after_behind (before text : List Char) :
    (behind before).after text = behind (before ++ text) := by
  induction text generalizing before with
  | nil => rw [after_nil, List.append_nil]
  | cons c text ih => rw [after_cons, advance_behind, ih, List.append_assoc, List.singleton_append]

end Position

namespace Lexer

open Lexeme

/-- Tokens that cut a text into gaps and lexemes. The text stands behind `before`, and
`afterPoint` says whether the token before it is a point. -/
inductive Tiles : (before : List Char) → (afterPoint : Bool) → (text : List Char) →
    List Token → Prop where
  | done {before gap : List Char} {afterPoint : Bool} (isGap : IsGap gap []) :
      Tiles before afterPoint gap []
  | token {before gap data lexeme rest : List Char} {afterPoint : Bool} {kind : TokenKind}
      {token : Token} {others : List Token} (isGap : IsGap gap (lexeme ++ rest))
      (spells : Spells afterPoint kind data lexeme rest)
      (same : token = ⟨kind, String.ofList data, .behind (before ++ gap)⟩)
      (further : Tiles (before ++ gap ++ lexeme) (token.isSymbol ".") rest others) :
      Tiles before afterPoint (gap ++ (lexeme ++ rest)) (token :: others)

section Next

variable {before gap text data lexeme rest : List Char} {afterPoint : Bool} {kind : TokenKind}
  {token : Token} {lexer after : Lexer}

theorem skipGap_eq (before : List Char) (afterPoint : Bool) (isGap : IsGap gap rest)
    (noGap : NoGap rest) :
    (⟨gap ++ rest, .behind before, afterPoint⟩ : Lexer).skipGap =
      ⟨rest, .behind (before ++ gap), afterPoint⟩ := by
  have measured := isGap.gapLength_eq noGap
  simp only [skipGap, skip, measured, List.drop_left, List.take_left, Position.after_behind]

/-- Behind the last gap there is no token. -/
theorem next_of_gap (isGap : IsGap gap []) :
    (⟨gap, .behind before, afterPoint⟩ : Lexer).next =
      (.ok none, ⟨[], .behind (before ++ gap), afterPoint⟩) := by
  have skipped := skipGap_eq before afterPoint isGap nofun
  rw [List.append_nil] at skipped
  simp only [next, skipped]

/-- Behind a gap a lexer gives the token that is spelled there. -/
theorem next_of_spells (isGap : IsGap gap (lexeme ++ rest))
    (spells : Spells afterPoint kind data lexeme rest)
    (same : token = ⟨kind, String.ofList data, .behind (before ++ gap)⟩) :
    (⟨gap ++ (lexeme ++ rest), .behind before, afterPoint⟩ : Lexer).next =
      (.ok (some token), ⟨rest, .behind (before ++ gap ++ lexeme), token.isSymbol "."⟩) := by
  have skipped := skipGap_eq before afterPoint isGap spells.noGap
  obtain ⟨c, text, starts, reading⟩ := spells.read_eq
  have drop : (c :: text).drop lexeme.length = rest := by rw [← starts, List.drop_left]
  have take : (c :: text).take lexeme.length = lexeme := by rw [← starts, List.take_left]
  rw [starts] at skipped ⊢
  simp only [next, skipped, reading, skip, drop, take, Position.after_behind, same]

/-- Behind a gap a lexer fails where nothing can be read there. -/
theorem next_of_failure {c : Char} {cause : LexicalCause} {place stop : Nat}
    (isGap : IsGap gap (c :: text)) (noGap : NoGap (c :: text))
    (failed : read afterPoint c text = .failure cause place stop) :
    (⟨gap ++ c :: text, .behind before, afterPoint⟩ : Lexer).next =
      (.error (.lexical cause (.behind (before ++ gap ++ (c :: text).take place))),
        ⟨(c :: text).drop stop, .behind (before ++ gap ++ (c :: text).take stop), afterPoint⟩) := by
  have skipped := skipGap_eq before afterPoint isGap noGap
  simp only [next, skipped, failed, skip, Position.after_behind]

/-- A text is a gap, or starts with a gap and a lexeme, or with a gap behind which nothing
can be read. -/
theorem text_cases (afterPoint : Bool) (text : List Char) :
    IsGap text [] ∨
      (∃ gap kind data lexeme rest, text = gap ++ (lexeme ++ rest) ∧
        IsGap gap (lexeme ++ rest) ∧ Spells afterPoint kind data lexeme rest) ∨
      ∃ gap c rest cause place stop, text = gap ++ c :: rest ∧ IsGap gap (c :: rest) ∧
        NoGap (c :: rest) ∧ read afterPoint c rest = .failure cause place stop := by
  obtain ⟨⟨gap, rest, rfl, isGap, noGap⟩, -⟩ := exists_gap text
  cases rest with
  | nil => exact .inl (by rwa [List.append_nil])
  | cons c rest =>
      cases reading : read afterPoint c rest with
      | lexeme kind data length =>
          obtain ⟨lexeme, others, split, -, spells⟩ := read_eq_lexeme_iff.mp reading
          refine .inr (.inl ⟨gap, kind, data, lexeme, others, ?_, ?_, spells⟩)
          · rw [split]
          · rwa [← split]
      | failure cause place stop =>
          exact .inr (.inr ⟨gap, c, rest, cause, place, stop, rfl, isGap, noGap, reading⟩)

end Next

/-! ## All tokens -/

section Tokens

variable {before text : List Char} {afterPoint : Bool} {token : Token} {tokens : List Token}
  {lexer after : Lexer} {error : SyntaxError}

theorem tokens_of_none (result : lexer.next = (.ok none, after)) : lexer.tokens = .ok [] := by
  rw [Lexer.tokens.eq_def]
  grind

theorem tokens_of_some (result : lexer.next = (.ok (some token), after)) :
    lexer.tokens = after.tokens.map (token :: ·) := by
  rw [Lexer.tokens.eq_def]
  grind

theorem tokens_of_error (result : lexer.next = (.error error, after)) :
    lexer.tokens = .error error := by
  rw [Lexer.tokens.eq_def]
  grind

/-- The tokens of a cut are given one by one. -/
theorem Tiles.tokens_eq (tiles : Tiles before afterPoint text tokens) :
    (⟨text, .behind before, afterPoint⟩ : Lexer).tokens = .ok tokens := by
  induction tiles with
  | done isGap => exact tokens_of_none (next_of_gap isGap)
  | token isGap spells same _ ih =>
      rw [tokens_of_some (next_of_spells isGap spells same), ih]
      rfl

/-- A lexer that fails nowhere cuts its text. -/
theorem tiles_of_tokens (given : (⟨text, .behind before, afterPoint⟩ : Lexer).tokens = .ok tokens) :
    Tiles before afterPoint text tokens := by
  -- What stands behind a lexeme is shorter than the text, since no lexeme is empty.
  induction size : text.length using Nat.strongRecOn generalizing before afterPoint text tokens with
  | ind length ih =>
      rcases text_cases afterPoint text with isGap | lexeme | failure
      · rw [tokens_of_none (next_of_gap isGap)] at given
        cases given
        exact .done isGap
      · obtain ⟨gap, kind, data, lexeme, rest, rfl, isGap, spells⟩ := lexeme
        rw [tokens_of_some (next_of_spells isGap spells rfl)] at given
        cases others : (⟨rest, .behind (before ++ gap ++ lexeme), _⟩ : Lexer).tokens with
        | error error =>
            rw [others] at given
            cases given
        | ok further =>
            rw [others] at given
            cases given
            obtain ⟨c, inner, rfl, -⟩ := spells.head
            have shorter : rest.length < length := by
              simp only [List.length_append, List.length_cons] at size
              omega
            exact .token isGap spells rfl (ih rest.length shorter others rfl)
      · obtain ⟨gap, c, rest, cause, place, stop, rfl, isGap, noGap, failed⟩ := failure
        rw [tokens_of_error (next_of_failure isGap noGap failed)] at given
        cases given

/-- A lexer gives exactly the tokens that cut its text. -/
theorem tokens_eq_ok_iff :
    (⟨text, .behind before, afterPoint⟩ : Lexer).tokens = .ok tokens ↔
      Tiles before afterPoint text tokens :=
  ⟨tiles_of_tokens, Tiles.tokens_eq⟩

/-- No two tokens of a cut start at one place, and none starts before the text. -/
theorem Tiles.offsets (tiles : Tiles before afterPoint text tokens) :
    (∀ token ∈ tokens, before.length ≤ token.position.offset) ∧
      tokens.Pairwise (·.position.offset < ·.position.offset) := by
  induction tiles with
  | done => exact ⟨nofun, .nil⟩
  | @token before gap _ lexeme _ _ _ token others isGap spells same _ ih =>
      obtain ⟨beyond, increasing⟩ := ih
      obtain ⟨c, inner, rfl, -⟩ := spells.head
      have starts : token.position.offset = before.length + gap.length := by simp [same]
      have behind : ∀ other ∈ others, token.position.offset < other.position.offset := by
        intro other member
        have := beyond other member
        simp only [List.length_append, List.length_cons] at this
        omega
      refine ⟨fun other member => ?_, .cons behind increasing⟩
      rcases List.mem_cons.mp member with rfl | member
      · omega
      · have := behind other member
        omega

theorem tiles_of_tokenize {source : String} (given : tokenize source = .ok tokens) :
    Tiles [] false source.toList tokens := by
  rw [tokenize, ofString, ← Position.behind_nil] at given
  exact tiles_of_tokens given

end Tokens

end Lexer

/-- **Tokenizing is tiling.** The tokens of a source are those that cut its text into
gaps and lexemes from its start to its end. -/
theorem tokenize_eq_ok_iff {source : String} {tokens : List Token} :
    tokenize source = .ok tokens ↔ Lexer.Tiles [] false source.toList tokens := by
  rw [tokenize, Lexer.ofString, ← Position.behind_nil]
  exact Lexer.tokens_eq_ok_iff

end DataFormula
