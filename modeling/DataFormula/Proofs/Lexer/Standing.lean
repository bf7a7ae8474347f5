import DataFormula.Proofs.Lexer.Tiling
import Mathlib.Data.List.Induction
import Mathlib.Data.String.Basic

/-!
# Where a lexer stands

A lexer over a source is asked for token after token, also behind an error. At any time,
also between two characters of one call, it stands in its source (`Lexer.StandsIn`): the
characters it has left are those behind its offset, line and column count what is before
it, and a reader that goes by bytes has come to the same place, where a character starts.
A call only passes characters (`Lexer.next_eq_skip`). So this goes on from call to call,
and with it what is known of the places of tokens and errors (`Lexer.standing`).
-/

namespace DataFormula

/-- A reader that goes by bytes, and counts the places it passes. -/
structure ByteReader where
  index : String.Pos.Raw
  position : Position

namespace ByteReader

/-- The reader behind the character at its index. At the end of the source it stays. -/
def advance (source : String) (reader : ByteReader) : ByteReader :=
  match reader.index.get? source with
  | some c => ⟨reader.index + c, reader.position.advance c⟩
  | none => reader

/-- The reader some characters behind the start of a source. -/
def walk (source : String) : Nat → ByteReader
  | 0 => ⟨0, .start⟩
  | count + 1 => (walk source count).advance source

variable {source : String} {before rest : List Char}

theorem get?_rawEndPos (split : source.toList = before ++ rest) :
    (String.ofList before).rawEndPos.get? source = rest.head? := by
  have whole : source = .ofList (before ++ rest) := by rw [← split, String.ofList_toList]
  rw [whole, String.rawEndPos_ofList]
  exact String.get?_of_valid before rest

/-- A reader comes to the index behind the bytes of the characters passed. -/
theorem walk_length (split : source.toList = before ++ rest) :
    walk source before.length = ⟨(String.ofList before).rawEndPos, .behind before⟩ := by
  induction before using List.reverseRecOn generalizing rest with
  | nil => rfl
  | append_singleton before c ih =>
      rw [List.append_assoc] at split
      rw [List.length_append, List.length_singleton, walk, ih split, advance,
        get?_rawEndPos split]
      simp [Position.advance_behind, String.Pos.Raw.add_char_eq]

end ByteReader

/-- What stands in a text where it is no lexeme for some cause. -/
def LexicalCause.Heads : LexicalCause → List Char → Prop
  | unexpectedCharacter c, text => ∃ others, text = c :: others
  | missingName, text => ∃ others, text = '$' :: others
  | invalidEscape letter, text => ∃ others, text = '\\' :: letter :: others
  | unterminatedString, text =>
      ∃ quote others, (quote = '"' ∨ quote = '\'') ∧ text = quote :: others
  | other _, _ => False

theorem LexicalCause.Heads.length_pos {cause : LexicalCause} {text : List Char}
    (heads : cause.Heads text) : 0 < text.length := by
  cases text with
  | cons c text => exact Nat.succ_pos _
  | nil => cases cause <;> simp [Heads] at heads

namespace Lexeme

open Text

section Failure

variable {key : Bool} {text : List Char} {cause : LexicalCause} {place stop : Nat}

theorem exists_badEscape_of_push {c letter : Char} {width before : Nat} {scan : Quoted.Scan}
    (failed : scan.push c width = .badEscape before letter) :
    ∃ short, scan = .badEscape short letter ∧ before = short + width := by
  cases scan with
  | badEscape short other =>
      cases failed
      exact ⟨short, rfl, rfl⟩
  | _ => cases failed

/-- A scan that fails at an escape counts the characters before its backslash. -/
theorem drop_of_scan_eq_badEscape {quote letter : Char} {before : Nat}
    (failed : Quoted.scan quote text = .badEscape before letter) :
    ∃ others, text.drop before = '\\' :: letter :: others := by
  fun_induction Quoted.scan quote text generalizing before with
  | case1 => cases failed
  | case2 => cases failed
  | case3 => cases failed
  | case4 first text meant known notQuote ih =>
      obtain ⟨short, inside, rfl⟩ := exists_badEscape_of_push failed
      exact ih inside
  | case5 first text unknown notQuote =>
      cases failed
      exact ⟨text, rfl⟩
  | case6 c text notQuote plain ih =>
      obtain ⟨short, inside, rfl⟩ := exists_badEscape_of_push failed
      exact ih inside

theorem heads_of_readReference (failed : readReference text = .failure cause place stop) :
    cause.Heads (('$' :: text).drop place) := by
  unfold readReference at failed
  split at failed
  · cases failed
    exact ⟨_, rfl⟩
  · split at failed
    · cases failed
    · split at failed <;> cases failed
      exact ⟨_, rfl⟩

theorem heads_of_readString {quote : Char} (isQuote : quote = '"' ∨ quote = '\'')
    (failed : readString quote text = .failure cause place stop) :
    cause.Heads ((quote :: text).drop place) := by
  unfold readString at failed
  split at failed
  · cases failed
  · rename_i before letter escape
    cases failed
    rw [List.drop_succ_cons]
    exact drop_of_scan_eq_badEscape escape
  · cases failed
    exact ⟨quote, text, isQuote, rfl⟩

/-- Where reading fails, the place of the cause is that of the character at fault. -/
theorem heads_of_read {c : Char} (failed : read key c text = .failure cause place stop) :
    cause.Heads ((c :: text).drop place) := by
  by_cases dollar : c = '$'
  · subst dollar
    exact heads_of_readReference failed
  by_cases isQuote : c = '"' ∨ c = '\''
  · rw [read_of_isQuote isQuote] at failed
    exact heads_of_readString isQuote failed
  by_cases digit : c.isDigit = true
  · rw [read_of_isDigit digit] at failed
    exact absurd failed (readNumber_ne_failure digit)
  · have opening : c ∉ ['$', '"', '\''] := by
      simpa [not_or] using And.intro dollar isQuote
    rw [read_of_not_opening opening, if_neg digit] at failed
    split at failed
    · cases failed
    · split at failed <;> cases failed
      exact ⟨text, rfl⟩

end Failure

end Lexeme

namespace Lexer

open Lexeme

/-! ## One place -/

/-- A lexer stands in a source if it has read some characters of it and nothing else. -/
structure StandsIn (source : String) (lexer : Lexer) : Prop where
  rest : lexer.rest = source.toList.drop lexer.position.offset
  position : lexer.position = .behind (source.toList.take lexer.position.offset)
  /-- The bytes of the source can be cut where the lexer stands. -/
  boundary : ∃ here : source.Pos,
    ByteReader.walk source lexer.position.offset = ⟨here.offset, lexer.position⟩ ∧
      (source.sliceFrom here).copy = .ofList lexer.rest

section Place

variable {source : String} {lexer : Lexer} {before : List Char}

theorem standsIn_of_split (split : source.toList = before ++ lexer.rest)
    (place : lexer.position = .behind before) : StandsIn source lexer := by
  have whole : source = .ofList before ++ .ofList lexer.rest := by
    rw [← String.ofList_append, ← split, String.ofList_toList]
  have valid : (String.ofList before).rawEndPos.IsValid source :=
    String.Pos.Raw.isValid_iff_exists_append.mpr ⟨_, _, whole, rfl⟩
  refine ⟨?_, ?_, source.pos _ valid, ?_, ?_⟩
  · rw [place, Position.offset_behind, split, List.drop_left]
  · rw [place, Position.offset_behind, split, List.take_left]
  · rw [place, Position.offset_behind, ByteReader.walk_length split]
    rfl
  · exact String.copy_sliceFrom_eq_iff_exists_splits.mpr ⟨_, whole, rfl⟩

theorem StandsIn.exists_split (stands : StandsIn source lexer) :
    ∃ before, source.toList = before ++ lexer.rest ∧ lexer.position = .behind before := by
  refine ⟨_, ?_, stands.position⟩
  rw [stands.rest, List.take_append_drop]

theorem standsIn_ofString (source : String) : StandsIn source (ofString source) :=
  standsIn_of_split (List.nil_append _).symm rfl

/-- Passing characters, a lexer stays in its source. -/
theorem StandsIn.skip (stands : StandsIn source lexer) (count : Nat) :
    StandsIn source (lexer.skip count) := by
  obtain ⟨before, split, place⟩ := stands.exists_split
  have parts : lexer.rest.take count ++ (lexer.skip count).rest = lexer.rest :=
    List.take_append_drop count lexer.rest
  have further : source.toList = (before ++ lexer.rest.take count) ++ (lexer.skip count).rest := by
    rw [List.append_assoc, parts, split]
  apply standsIn_of_split further
  rw [← Position.after_behind, ← place]
  rfl

theorem StandsIn.withPoint (stands : StandsIn source lexer) (afterPoint : Bool) :
    StandsIn source { lexer with afterPoint } :=
  ⟨stands.rest, stands.position, stands.boundary⟩

end Place

/-! ## One call -/

theorem skip_skip (lexer : Lexer) (first second : Nat) :
    (lexer.skip first).skip second = lexer.skip (first + second) := by
  simp only [skip, List.drop_drop, List.take_add, Position.after_append]

/-- Whatever a call gives, it passes characters, and may change what it knows of the point. -/
theorem next_eq_skip (lexer : Lexer) :
    ∃ count afterPoint, lexer.next.2 = { lexer.skip count with afterPoint } := by
  unfold next
  simp only [skipGap]
  split
  · exact ⟨_, _, rfl⟩
  · split
    · rename_i kind data length _
      refine ⟨gapLength false lexer.rest + length,
        Token.isSymbol ⟨kind, .ofList data, lexer.skipGap.position⟩ ".", ?_⟩
      rw [← skip_skip]
      rfl
    · rename_i stop _
      refine ⟨gapLength false lexer.rest + stop, lexer.afterPoint, ?_⟩
      rw [← skip_skip]
      rfl

theorem StandsIn.next {source : String} {lexer : Lexer} (stands : StandsIn source lexer) :
    StandsIn source lexer.next.2 := by
  obtain ⟨count, afterPoint, passes⟩ := next_eq_skip lexer
  rw [passes]
  exact (stands.skip count).withPoint afterPoint

theorem offset_le_next (lexer : Lexer) : lexer.position.offset ≤ lexer.next.2.position.offset := by
  obtain ⟨count, afterPoint, passes⟩ := next_eq_skip lexer
  rw [passes]
  change _ ≤ (lexer.position.after (lexer.rest.take count)).offset
  rw [Position.offset_after]
  exact Nat.le_add_right _ _

/-- A lexer gives the lexeme behind the next gap, at the place of its first character. -/
structure Gives (source : String) (lexer : Lexer) (token : Token) (after : Lexer)
    (gap data lexeme : List Char) : Prop where
  text : lexer.rest = gap ++ (lexeme ++ after.rest)
  isGap : IsGap gap (lexeme ++ after.rest)
  spells : Spells lexer.afterPoint token.kind data lexeme after.rest
  data : token.data = .ofList data
  starts : source.toList.drop token.position.offset = lexeme ++ after.rest
  position : token.position = .behind (source.toList.take token.position.offset)

/-- A lexer fails at the place of the character at fault. -/
structure Fails (source : String) (error : SyntaxError) (cause : LexicalCause) (index : Nat) :
    Prop where
  error : error = .lexical cause (.behind (source.toList.take index))
  inside : index < source.toList.length
  heads : cause.Heads (source.toList.drop index)

/-- What a lexer may answer. It only gives nothing if a gap is left. -/
def Answers (source : String) (lexer : Lexer) :
    Except SyntaxError (Option Token) → (after : Lexer) → Prop
  | .ok none, after => IsGap lexer.rest [] ∧ after.rest = []
  | .ok (some token), after => ∃ gap data lexeme, Gives source lexer token after gap data lexeme
  | .error error, _ => ∃ cause index, Fails source error cause index

section Answer

variable {source : String} {lexer : Lexer}

/-- A token starts behind the lexer, and ends before where the lexer stands then. -/
theorem Gives.between {token : Token} {after : Lexer} {gap data lexeme : List Char}
    (gives : Gives source lexer token after gap data lexeme) (stands : StandsIn source lexer)
    (further : StandsIn source after) :
    lexer.position.offset ≤ token.position.offset ∧
      token.position.offset < after.position.offset := by
  obtain ⟨c, others, rfl, -⟩ := gives.spells.head
  have before := congrArg List.length (stands.rest.symm.trans gives.text)
  have starts := congrArg List.length gives.starts
  have behind := congrArg List.length further.rest
  simp only [List.length_drop, List.length_append, List.length_cons] at before starts behind
  omega

theorem StandsIn.next_answers (stands : StandsIn source lexer) :
    Answers source lexer lexer.next.1 lexer.next.2 := by
  obtain ⟨before, split, place⟩ := stands.exists_split
  obtain ⟨text, position, afterPoint⟩ := lexer
  obtain rfl : position = .behind before := place
  rcases text_cases afterPoint text with isGap |
    ⟨gap, kind, data, lexeme, rest, rfl, isGap, spells⟩ |
    ⟨gap, c, rest, cause, place, stop, rfl, isGap, noGap, reading⟩
  · rw [next_of_gap isGap]
    exact ⟨isGap, rfl⟩
  · rw [next_of_spells isGap spells rfl]
    have split : source.toList = (before ++ gap) ++ (lexeme ++ rest) := by
      rw [split, List.append_assoc]
    refine ⟨gap, data, lexeme, rfl, isGap, spells, rfl, ?_, ?_⟩
    · rw [Position.offset_behind, split, List.drop_left]
    · rw [Position.offset_behind, split, List.take_left]
  · rw [next_of_failure isGap noGap reading]
    have heads := heads_of_read reading
    have parts : (c :: rest).take place ++ (c :: rest).drop place = c :: rest :=
      List.take_append_drop place (c :: rest)
    generalize (c :: rest).drop place = left at heads parts
    have split : source.toList = (before ++ gap ++ (c :: rest).take place) ++ left := by
      rw [split, List.append_assoc _ _ left, parts, List.append_assoc]
    generalize before ++ gap ++ (c :: rest).take place = passed at split ⊢
    refine ⟨cause, passed.length, ?_, ?_, ?_⟩
    · rw [split, List.take_left]
    · rw [split, List.length_append]
      exact Nat.lt_add_of_pos_right heads.length_pos
    · rw [split, List.drop_left]
      exact heads

end Answer

/-! ## Any number of calls -/

/-- The lexer after some calls, whatever they have given. -/
def after (lexer : Lexer) : Nat → Lexer
  | 0 => lexer
  | calls + 1 => (lexer.after calls).next.2

section Run

variable {source : String} {lexer : Lexer}

theorem StandsIn.after (stands : StandsIn source lexer) (calls : Nat) :
    StandsIn source (lexer.after calls) := by
  induction calls with
  | zero => exact stands
  | succ calls ih => exact ih.next

theorem monotone_offset_after (lexer : Lexer) :
    Monotone fun calls => (lexer.after calls).position.offset :=
  monotone_nat_of_le_succ fun calls => offset_le_next (lexer.after calls)

theorem StandsIn.answers_after (stands : StandsIn source lexer) (calls : Nat) :
    Answers source (lexer.after calls) (lexer.after calls).next.1 (lexer.after (calls + 1)) :=
  (stands.after calls).next_answers

theorem StandsIn.exists_gives (stands : StandsIn source lexer) {calls : Nat} {token : Token}
    (given : (lexer.after calls).next.1 = .ok (some token)) :
    ∃ gap data lexeme,
      Gives source (lexer.after calls) token (lexer.after (calls + 1)) gap data lexeme := by
  have answers := stands.answers_after calls
  rw [given] at answers
  exact answers

/-- Between two tokens a lexer passes at least the first of them. -/
theorem StandsIn.offset_lt (stands : StandsIn source lexer) {earlier later : Nat}
    (order : earlier < later) {first second : Token}
    (sooner : (lexer.after earlier).next.1 = .ok (some first))
    (further : (lexer.after later).next.1 = .ok (some second)) :
    first.position.offset < second.position.offset := by
  obtain ⟨_, _, _, gives⟩ := stands.exists_gives sooner
  obtain ⟨_, _, _, gives'⟩ := stands.exists_gives further
  calc
    first.position.offset < (lexer.after (earlier + 1)).position.offset :=
      (gives.between (stands.after _) (stands.after _)).2
    _ ≤ (lexer.after later).position.offset := monotone_offset_after lexer order
    _ ≤ second.position.offset := (gives'.between (stands.after _) (stands.after _)).1

end Run

/-- **A lexer knows where it stands.** However often a lexer is asked for the next token, it
stands in its source, between calls and within them, and never goes back. Tokens are given
at the place of their first character, one behind the other, and errors at the place of a
character of the source. -/
theorem standing (source : String) :
    (∀ calls count, StandsIn source (((ofString source).after calls).skip count)) ∧
    (∀ calls, ∃ count afterPoint, (ofString source).after (calls + 1) =
      { ((ofString source).after calls).skip count with afterPoint }) ∧
    (Monotone fun calls => ((ofString source).after calls).position.offset) ∧
    (∀ calls, Answers source ((ofString source).after calls)
      ((ofString source).after calls).next.1 ((ofString source).after (calls + 1))) ∧
    ∀ earlier later, earlier < later → ∀ first second,
      ((ofString source).after earlier).next.1 = .ok (some first) →
        ((ofString source).after later).next.1 = .ok (some second) →
          first.position.offset < second.position.offset := by
  have stands := standsIn_ofString source
  refine ⟨?_, ?_, ?_, ?_, ?_⟩
  · intro calls count
    exact (stands.after calls).skip count
  · intro calls
    exact next_eq_skip _
  · exact monotone_offset_after _
  · exact stands.answers_after
  · intro earlier later order first second sooner further
    exact stands.offset_lt order sooner further

/-- Behind the error for a lone `$` the next call goes on. -/
example : ((ofString "é $ b").after 1).next.1 = .error (.lexical .missingName ⟨2, 1, 3⟩) ∧
    ((ofString "é $ b").after 2).next.1 = .ok (some ⟨.identifier, "b", ⟨4, 1, 5⟩⟩) := by
  exact ⟨rfl, rfl⟩

end Lexer

end DataFormula
