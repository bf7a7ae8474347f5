import DataFormula.Proofs.Lexer.Standing

/-!
# Lexers that go on

A lexer may be called again whatever it has given. Each of its errors says where it stands
then: on the character at fault, behind it, or at the end of the text
(`Lexer.next_continues`). So a call leaves fewer characters, or the lexer rests on its
answer. The latter is so from some call on, and there are no more calls before it than
characters (`Lexer.resuming`).
-/

namespace DataFormula

namespace Lexeme

section Failure

variable {key : Bool} {text : List Char} {cause : LexicalCause} {place stop : Nat}

theorem stop_of_readReference (failed : readReference text = .failure cause place stop) :
    cause = .missingName ∧ place = 0 ∧ stop = 1 := by
  unfold readReference at failed
  split at failed
  · cases failed
    exact ⟨rfl, rfl, rfl⟩
  · split at failed
    · cases failed
    · split at failed <;> cases failed
      exact ⟨rfl, rfl, rfl⟩

/-- Reading a literal stops behind a backslash, or at the end of the text. -/
theorem stop_of_readString {quote : Char}
    (failed : readString quote text = .failure cause place stop) :
    (∃ inside letter rest, text = inside ++ '\\' :: letter :: rest ∧
      cause = .invalidEscape letter ∧ place = inside.length + 1 ∧ stop = inside.length + 2) ∨
    (cause = .unterminatedString ∧ place = 0 ∧ stop = text.length + 1) := by
  unfold readString at failed
  split at failed
  · cases failed
  · rename_i before letter escape
    cases failed
    obtain ⟨rest, behind⟩ := drop_of_scan_eq_badEscape escape
    have length : (text.take before).length = before := by
      have := congrArg List.length behind
      simp only [List.length_drop, List.length_cons] at this
      rw [List.length_take]
      omega
    refine .inl ⟨text.take before, letter, rest, ?_, rfl, ?_, ?_⟩
    · rw [← behind, List.take_append_drop]
    · rw [length]
    · rw [length]
  · cases failed
    exact .inr ⟨rfl, rfl, rfl⟩

theorem stop_of_read_unexpected {c : Char} (dollar : c ≠ '$') (noQuote : ¬(c = '"' ∨ c = '\''))
    (failed : read key c text = .failure cause place stop) :
    cause = .unexpectedCharacter c ∧ place = 0 ∧ stop = 0 := by
  have opening : c ∉ ['$', '"', '\''] := by
    simpa [not_or] using And.intro dollar noQuote
  rw [read_of_not_opening opening] at failed
  split at failed
  · rename_i digit
    exact absurd failed (readNumber_ne_failure digit)
  · split at failed
    · cases failed
    · split at failed <;> cases failed
      exact ⟨rfl, rfl, rfl⟩

end Failure

end Lexeme

namespace Lexer

open Lexeme

/-! ## One call -/

/-- A lexer rests on an answer if every call gives it and changes nothing. -/
def RestsOn (lexer : Lexer) (answer : Except SyntaxError (Option Token)) : Prop :=
  ∀ calls, (lexer.after calls).next = (answer, lexer)

theorem restsOn_of_next {lexer : Lexer} {answer : Except SyntaxError (Option Token)}
    (same : lexer.next = (answer, lexer)) : RestsOn lexer answer := by
  intro calls
  have stays : lexer.after calls = lexer := by
    induction calls with
    | zero => rfl
    | succ calls ih => rw [after, ih, same]
  rw [stays, same]

/-- An error of the tokenizer, with its message, at the place behind a text. -/
structure Reports (error : SyntaxError) (message : String) (before : List Char) : Prop where
  origin : error.origin = .tokenizer
  message : error.message = message
  position : error.position? = some (.behind before)

/-- How a lexer behind a text fails, and where it stands then. It keeps what it knows of
the point. -/
inductive StopsAt (before : List Char) (lexer : Lexer) (error : SyntaxError) :
    (after : Lexer) → Prop where
  /-- It stands on a character that starts nothing, and rests there. -/
  | unexpected {gap rest : List Char} {c : Char} (text : lexer.rest = gap ++ c :: rest)
      (isGap : IsGap gap (c :: rest))
      (reports : Reports error ("unexpected character '" ++ c.toString ++ "'") (before ++ gap))
      (rests : RestsOn ⟨c :: rest, .behind (before ++ gap), lexer.afterPoint⟩ (.error error)) :
      StopsAt before lexer error ⟨c :: rest, .behind (before ++ gap), lexer.afterPoint⟩
  /-- It stands behind a `$` that no name follows. -/
  | missingName {gap rest : List Char} (text : lexer.rest = gap ++ '$' :: rest)
      (isGap : IsGap gap ('$' :: rest))
      (reports : Reports error "reference is missing a name" (before ++ gap)) :
      StopsAt before lexer error ⟨rest, .behind (before ++ gap ++ ['$']), lexer.afterPoint⟩
  /-- Within a literal, it stands between a backslash and the letter behind that. -/
  | invalidEscape {gap inside rest : List Char} {quote letter : Char}
      (text : lexer.rest = gap ++ quote :: inside ++ '\\' :: letter :: rest)
      (isGap : IsGap gap (quote :: inside ++ '\\' :: letter :: rest))
      (isQuote : quote = '"' ∨ quote = '\'')
      (reports : Reports error ("invalid escape sequence: \\" ++ letter.toString)
        (before ++ gap ++ quote :: inside)) :
      StopsAt before lexer error
        ⟨letter :: rest, .behind (before ++ gap ++ quote :: inside ++ ['\\']), lexer.afterPoint⟩
  /-- It stands at the end of the text, behind a literal without an end, and rests there. -/
  | unterminated {gap rest : List Char} {quote : Char} (text : lexer.rest = gap ++ quote :: rest)
      (isGap : IsGap gap (quote :: rest)) (isQuote : quote = '"' ∨ quote = '\'')
      (reports : Reports error "unterminated string: missing closing quote" (before ++ gap))
      (rests : RestsOn ⟨[], .behind (before ++ lexer.rest), lexer.afterPoint⟩ (.ok none)) :
      StopsAt before lexer error ⟨[], .behind (before ++ lexer.rest), lexer.afterPoint⟩

/-- Where a lexer behind a text stands after a call, by the answer. -/
def Continues (before : List Char) (lexer : Lexer) :
    Except SyntaxError (Option Token) → (after : Lexer) → Prop
  | .ok none, after => after.afterPoint = lexer.afterPoint ∧ RestsOn after (.ok none)
  | .ok (some token), after =>
      lexer.position.offset < after.position.offset ∧ after.afterPoint = token.isSymbol "."
  | .error error, after => StopsAt before lexer error after

section Step

variable {before gap text : List Char} {afterPoint : Bool} {c : Char} {cause : LexicalCause}
  {place stop : Nat}

theorem restsOn_end (before : List Char) (afterPoint : Bool) :
    RestsOn ⟨[], .behind before, afterPoint⟩ (.ok none) := by
  apply restsOn_of_next
  rw [next_of_gap .nil, List.append_nil]

/-- A lexer on a character that starts nothing rests there. -/
theorem restsOn_unexpected (before : List Char) (noGap : NoGap (c :: text))
    (failed : read afterPoint c text = .failure cause 0 0) :
    RestsOn ⟨c :: text, .behind before, afterPoint⟩ (.error (.lexical cause (.behind before))) := by
  apply restsOn_of_next
  have same : (⟨[] ++ c :: text, .behind before, afterPoint⟩ : Lexer).next = _ :=
    next_of_failure .nil noGap failed
  simpa using same

/-- A lexer gives nothing exactly if there are only blanks and comments before it. -/
theorem next_eq_none_iff {lexer : Lexer} (position : lexer.position = .behind before) :
    lexer.next.1 = .ok none ↔ IsGap lexer.rest [] := by
  obtain ⟨text, _, afterPoint⟩ := lexer
  subst position
  refine ⟨fun given => ?_, fun isGap => by rw [next_of_gap isGap]⟩
  rcases text_cases afterPoint text with isGap |
    ⟨gap, kind, data, lexeme, rest, rfl, isGap, spells⟩ |
    ⟨gap, c, rest, cause, place, stop, rfl, isGap, noGap, failed⟩
  · exact isGap
  · rw [next_of_spells isGap spells rfl] at given
    cases given
  · rw [next_of_failure isGap noGap failed] at given
    cases given

theorem stopsAt_of_failure (isGap : IsGap gap (c :: text)) (noGap : NoGap (c :: text))
    (failed : read afterPoint c text = .failure cause place stop) :
    StopsAt before ⟨gap ++ c :: text, .behind before, afterPoint⟩
      (.lexical cause (.behind (before ++ gap ++ (c :: text).take place)))
      ⟨(c :: text).drop stop, .behind (before ++ gap ++ (c :: text).take stop), afterPoint⟩ := by
  by_cases dollar : c = '$'
  · subst dollar
    obtain ⟨rfl, rfl, rfl⟩ := stop_of_readReference failed
    exact .missingName rfl isGap ⟨rfl, rfl, by rw [List.take_zero, List.append_nil]; rfl⟩
  by_cases isQuote : c = '"' ∨ c = '\''
  · rw [read_of_isQuote isQuote] at failed
    obtain ⟨inside, letter, rest, rfl, rfl, rfl, rfl⟩ | ⟨rfl, rfl, rfl⟩ :=
      stop_of_readString failed
    · let whole := c :: (inside ++ '\\' :: letter :: rest)
      have passed : whole.take (inside.length + 1) = c :: inside := by simp [whole]
      have split : whole = (c :: inside ++ ['\\']) ++ letter :: rest := by simp [whole]
      have stopped : (c :: inside ++ ['\\']).length = inside.length + 2 := List.length_append
      have left : whole.drop (inside.length + 2) = letter :: rest := by
        rw [split, ← stopped, List.drop_left]
      have further : whole.take (inside.length + 2) = c :: inside ++ ['\\'] := by
        rw [split, ← stopped, List.take_left]
      rw [passed, left, further, ← List.append_assoc (before ++ gap)]
      refine .invalidEscape ?_ ?_ isQuote ⟨rfl, rfl, rfl⟩
      · simp
      · simpa using isGap
    · rw [List.take_zero, List.append_nil, ← List.length_cons, List.take_length, List.drop_length,
        List.append_assoc]
      exact .unterminated rfl isGap isQuote ⟨rfl, rfl, rfl⟩ (restsOn_end _ _)
  · obtain ⟨rfl, rfl, rfl⟩ := stop_of_read_unexpected dollar isQuote failed
    rw [List.take_zero, List.append_nil]
    exact .unexpected rfl isGap ⟨rfl, rfl, rfl⟩ (restsOn_unexpected _ noGap failed)

/-- Every call leaves a lexer where its answer says. -/
theorem next_continues {lexer : Lexer} (position : lexer.position = .behind before) :
    Continues before lexer lexer.next.1 lexer.next.2 := by
  obtain ⟨text, _, afterPoint⟩ := lexer
  subst position
  rcases text_cases afterPoint text with isGap |
    ⟨gap, kind, data, lexeme, rest, rfl, isGap, spells⟩ |
    ⟨gap, c, rest, cause, place, stop, rfl, isGap, noGap, failed⟩
  · rw [next_of_gap isGap]
    exact ⟨rfl, restsOn_end _ _⟩
  · rw [next_of_spells isGap spells rfl]
    obtain ⟨c, others, rfl, -⟩ := spells.head
    refine ⟨?_, rfl⟩
    simp only [Position.offset_behind, List.length_append, List.length_cons]
    omega
  · rw [next_of_failure isGap noGap failed]
    exact stopsAt_of_failure isGap noGap failed

end Step

/-! ## Any number of calls -/

/-- An answer behind which a lexer gives no other. -/
inductive Final : Except SyntaxError (Option Token) → Prop where
  | none : Final (.ok none)
  | unexpected {error : SyntaxError} {c : Char}
      (message : error.message = "unexpected character '" ++ c.toString ++ "'") :
      Final (.error error)

theorem after_next (lexer : Lexer) (calls : Nat) :
    lexer.next.2.after calls = lexer.after (calls + 1) := by
  induction calls with
  | zero => rfl
  | succ calls ih => rw [after, ih]; rfl

section Run

variable {source : String} {lexer : Lexer}

/-- A call leaves fewer characters, unless its answer is given from then on. -/
theorem next_progresses {before : List Char} (position : lexer.position = .behind before) :
    lexer.next.2.rest.length < lexer.rest.length ∨
      Final lexer.next.1 ∧ ∀ calls, (lexer.after calls).next.1 = lexer.next.1 := by
  have repeats {answer : Except SyntaxError (Option Token)} (given : lexer.next.1 = answer)
      (rests : RestsOn lexer.next.2 answer) (calls : Nat) :
      (lexer.after calls).next.1 = answer := by
    cases calls with
    | zero => exact given
    | succ calls => rw [← after_next, rests calls]
  have continues := next_continues position
  cases answer : lexer.next.1 with
  | ok token? =>
      cases token? with
      | none =>
          rw [answer] at continues
          exact .inr ⟨.none, repeats answer continues.2⟩
      | some token => exact .inl (length_rest_lt_of_next (Prod.ext answer rfl))
  | error error =>
      rw [answer] at continues
      generalize lexer.next.2 = further at continues repeats
      cases continues with
      | unexpected text isGap reports rests =>
          exact .inr ⟨.unexpected reports.message, repeats answer rests⟩
      | missingName text =>
          rw [text]
          simp only [List.length_append, List.length_cons]
          omega
      | invalidEscape text =>
          rw [text]
          simp only [List.length_append, List.length_cons]
          omega
      | unterminated text =>
          rw [text]
          simp

/-- A lexer is not called more often than it has characters before its answer is final. -/
theorem StandsIn.exists_final (stands : StandsIn source lexer) :
    ∃ settled answer, settled ≤ lexer.rest.length ∧ Final answer ∧
      ∀ calls, settled ≤ calls → (lexer.after calls).next.1 = answer := by
  induction size : lexer.rest.length using Nat.strongRecOn generalizing lexer with
  | ind length ih =>
      obtain ⟨before, -, position⟩ := stands.exists_split
      rcases next_progresses position with shorter | ⟨final, repeats⟩
      · obtain ⟨settled, answer, bound, final, repeats⟩ := ih _ (size ▸ shorter) stands.next rfl
        refine ⟨settled + 1, answer, by omega, final, ?_⟩
        intro calls later
        obtain ⟨calls, rfl⟩ := Nat.exists_eq_add_of_le' (Nat.le_of_add_left_le later)
        rw [← after_next]
        exact repeats calls (Nat.le_of_add_le_add_right later)
      · exact ⟨0, _, Nat.zero_le _, final, fun calls _ => repeats calls⟩

end Run

/-- **A lexer goes on.** Whatever a lexer has given before, a token brings it forward, it
gives nothing exactly if a gap is left, and then for good, and each of its four errors
leaves it at a place of its own. There are no more calls than characters before it gives
nothing, or one unexpected character, over and over. -/
theorem resuming (source : String) :
    (∀ calls, let lexer := (ofString source).after calls
      (lexer.next.1 = .ok none ↔ IsGap lexer.rest []) ∧
      ∃ before, source.toList = before ++ lexer.rest ∧ lexer.position = .behind before ∧
        Continues before lexer lexer.next.1 ((ofString source).after (calls + 1))) ∧
    ∃ settled answer, settled ≤ source.toList.length ∧ Final answer ∧
      ∀ calls, settled ≤ calls → ((ofString source).after calls).next.1 = answer := by
  have stands := standsIn_ofString source
  refine ⟨?_, stands.exists_final⟩
  intro calls lexer
  obtain ⟨before, split, position⟩ := (stands.after calls).exists_split
  exact ⟨next_eq_none_iff position, before, split, position, next_continues position⟩

/-- Behind an escape that is none, a literal is read as if it were no literal. -/
example : ((ofString "'\\q'").after 1).next.1 = .ok (some ⟨.identifier, "q", ⟨2, 1, 3⟩⟩) ∧
    ((ofString "'\\q'").after 2).next.1 = .error (.lexical .unterminatedString ⟨3, 1, 4⟩) := by
  exact ⟨rfl, rfl⟩

end Lexer

end DataFormula
