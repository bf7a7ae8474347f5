import DataFormula.Lexeme

/-!
# Lexers

A lexer walks over a text and gives its tokens one by one. After an error it
stands where reading stopped and can go on from there. `tokenize` reads a whole
text and ends at the first error.
-/

namespace DataFormula

/-- A lexer somewhere in a text. -/
structure Lexer where
  /-- The characters not read yet. -/
  rest : List Char
  /-- The place of the first of them. -/
  position : Position
  /-- Whether the last token was a point, so that a number is a key of digits only. -/
  afterPoint : Bool
deriving DecidableEq

namespace Lexer

/-- A lexer at the start of a text. -/
def ofString (source : String) : Lexer := ⟨source.toList, .start, false⟩

/-- The lexer a number of characters further on. -/
def skip (lexer : Lexer) (count : Nat) : Lexer :=
  { lexer with
    rest := lexer.rest.drop count
    position := lexer.position.after (lexer.rest.take count) }

/-- The lexer behind the blanks and comments before it. -/
def skipGap (lexer : Lexer) : Lexer := lexer.skip (Lexeme.gapLength false lexer.rest)

/-- The next token, if there is one, and the lexer behind it; an error leaves the
lexer where reading stopped. -/
def next (lexer : Lexer) : Except SyntaxError (Option Token) × Lexer :=
  let lexer := lexer.skipGap
  match lexer.rest with
  | [] => (.ok none, lexer)
  | c :: text =>
    match Lexeme.read lexer.afterPoint c text with
    | .lexeme kind data length =>
      let token : Token := ⟨kind, String.ofList data, lexer.position⟩
      (.ok (some token), { lexer.skip length with afterPoint := token.isSymbol "." })
    | .failure cause place stop =>
      (.error (.lexical cause (lexer.skip place).position), lexer.skip stop)

/-- Skipping leaves no more characters than before. -/
theorem length_rest_skip_le (lexer : Lexer) (count : Nat) :
    (lexer.skip count).rest.length ≤ lexer.rest.length := by
  simp [skip]

/-- A lexer that has given a token has fewer characters before it. -/
theorem length_rest_lt_of_next {lexer after : Lexer} {token : Token}
    (result : lexer.next = (.ok (some token), after)) :
    after.rest.length < lexer.rest.length := by
  have gap := length_rest_skip_le lexer (Lexeme.gapLength false lexer.rest)
  unfold next at result
  simp only at result
  split at result
  · simp at result
  · rename_i c text head
    split at result
    · rename_i kind data length reading
      have positive := Lexeme.length_pos_of_read_eq_lexeme reading
      simp only [Prod.mk.injEq] at result
      rw [← result.2]
      change (lexer.skipGap.rest.drop length).length < _
      change lexer.skipGap.rest.length ≤ _ at gap
      have inhabited : 0 < lexer.skipGap.rest.length := by simp [head]
      simp only [List.length_drop]
      omega
    · simp at result

/-- All tokens from a lexer to the end of its text. -/
def tokens (lexer : Lexer) : Except SyntaxError (List Token) :=
  match _result : lexer.next with
  | (.error error, _) => .error error
  | (.ok none, _) => .ok []
  | (.ok (some token), after) => (tokens after).map (token :: ·)
termination_by lexer.rest.length
decreasing_by exact length_rest_lt_of_next _result

end Lexer

/-- The tokens of a text. -/
def tokenize (source : String) : Except SyntaxError (List Token) :=
  (Lexer.ofString source).tokens

end DataFormula
