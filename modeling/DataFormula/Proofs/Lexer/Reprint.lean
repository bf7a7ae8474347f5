import DataFormula.Proofs.Lexer.Lines
import DataFormula.Proofs.Lexer.Quoting
import Mathlib.Control.Monad.Basic
import Mathlib.Data.Bool.AllAny

/-!
# Printed tokens

Tokens are printed with a blank between any two of them. What is printed spells the same
tokens again (`Lexeme.Spells.reprint`), except for strings with a character that quoting
writes as `\0` or by its code point: a literal knows neither escape, and reading stops at
the first of them.
-/

namespace DataFormula

open Text

namespace Text.Quoted

/-- The letter behind the backslash of `\0` and of a code point in hexadecimal, if a
character is quoted as one of these. -/
def foreignLetter? (c : Char) : Option Char :=
  match escape c with
  | '\\' :: letter :: _ => if letter = '0' ∨ letter = 'u' then some letter else none
  | _ => none

theorem escape_of_foreignLetter? {c letter : Char} (foreign : foreignLetter? c = some letter) :
    (letter = '0' ∨ letter = 'u') ∧ ∃ behind, escape c = '\\' :: letter :: behind := by
  unfold foreignLetter? at foreign
  split at foreign
  · rename_i written
    split at foreign
    · rename_i known
      cases foreign
      exact ⟨known, _, written⟩
    · cases foreign
  · cases foreign

theorem unescape?_of_foreignLetter? {c letter : Char} (foreign : foreignLetter? c = some letter) :
    unescape? letter = none := by
  rcases (escape_of_foreignLetter? foreign).1 with rfl | rfl <;> rfl

end Text.Quoted

namespace Lexeme

open Text.Quoted

/-! ## Quoted text in literals -/

/-- A quoted character is read as itself, unless it is foreign to literals. -/
theorem Writes.escape_cons {c : Char} {data written : List Char}
    (known : foreignLetter? c = none) (writes : Writes '"' data written) :
    Writes '"' (c :: data) (Quoted.escape c ++ written) := by
  have escaped := escapedAs_escape c
  unfold foreignLetter? at known
  generalize Quoted.escape c = shape at escaped known
  cases escaped with
  | plain apart =>
      simp only [List.mem_cons, List.not_mem_nil, or_false, not_or] at apart
      exact .plain apart.1 apart.2.1 writes
  | @letter letter _ member =>
      have both : ∀ pair ∈ letters, pair.1 ≠ '0' → pair ∈ escapes := by decide
      have notZero : letter ≠ '0' := by
        rintro rfl
        cases known
      exact .escape (both _ member notZero) writes
  | code => cases known

theorem writes_flatMap_escape {data : List Char} (known : ∀ c ∈ data, foreignLetter? c = none) :
    Writes '"' data (data.flatMap Quoted.escape) := by
  induction data with
  | nil => exact .nil
  | cons c data ih =>
      obtain ⟨here, known⟩ := List.forall_mem_cons.mp known
      exact (ih known).escape_cons here

/-- Reading a literal stops at the first letter that is escaped and must not be. -/
theorem Writes.scan_eq_badEscape {quote letter : Char} {data written : List Char}
    (writes : Writes quote data written) (notEscape : quote ≠ '\\')
    (unknown : unescape? letter = none) (rest : List Char) :
    scan quote (written ++ '\\' :: letter :: rest) = .badEscape written.length letter := by
  induction writes with
  | nil =>
      rw [List.nil_append, scan.eq_def]
      simp only [Ne.symm notEscape, if_false, if_true, unknown, List.length_nil]
  | @plain c data written notQuote plain _ ih =>
      rw [List.cons_append, scan.eq_def]
      simp only [notQuote, plain, if_false, ih, Scan.push, List.length_cons]
  | @escape other meant data written known _ ih =>
      have known := unescape?_eq_some_iff.mpr known
      rw [List.cons_append, List.cons_append, scan.eq_def]
      simp only [Ne.symm notEscape, if_false, if_true, known, ih, Scan.push, List.length_cons]

/-! ## One token -/

/-- How a token is printed: string literals are quoted, references have their `$`. -/
def printed (kind : TokenKind) (data : List Char) : List Char :=
  match kind with
  | .string => '"' :: data.flatMap Quoted.escape ++ ['"']
  | .reference => '$' :: data
  | _ => data

theorem toList_text (token : Token) :
    token.text.toList = printed token.kind token.data.toList := by
  unfold Token.text printed
  cases token.kind <;> simp [Quoted.quote]

/-- A text goes on with no name and no number. -/
def Breaks (text : List Char) : Prop :=
  ∀ c ∈ text.head?, isNamePart c = false ∧ c.isDigit = false ∧ c ≠ '.'

theorem breaks_cons {c : Char} (member : c ∈ [' ', ')']) (text : List Char) :
    Breaks (c :: text) := by
  have each : ∀ c ∈ [' ', ')'], isNamePart c = false ∧ c.isDigit = false ∧ c ≠ '.' :=
    List.all_iff_forall_prop.mp (by decide)
  intro first head
  cases head
  exact each c member

theorem breaks_nil : Breaks [] := nofun

section Reprint

variable {key : Bool} {kind : TokenKind} {data lexeme rest more : List Char}

theorem IsName.of_breaks (isName : IsName data rest) (breaks : Breaks more) : IsName data more :=
  ⟨isName.1, isName.2.all, fun c member => (breaks c member).1⟩

theorem IsNumeral.of_breaks (isNumeral : IsNumeral data rest) (breaks : Breaks more) :
    IsNumeral data more :=
  ⟨isNumeral.1, isNumeral.2.all, fun c member => (breaks c member).2.1⟩

/-- **Printing spells again.** What is printed for a token spells it, where nothing goes
on with it. -/
theorem Spells.reprint (spells : Spells key kind data lexeme rest)
    (known : kind = .string → ∀ c ∈ data, foreignLetter? c = none) (breaks : Breaks more) :
    Spells key kind data (printed kind data) more := by
  cases spells with
  | symbol member => exact .symbol member
  | identifier isName => exact .identifier (isName.of_breaks breaks)
  | namedReference isName => exact .namedReference (isName.of_breaks breaks)
  | numberedReference isNumeral => exact .numberedReference (isNumeral.of_breaks breaks)
  | integer isNumeral =>
      apply Spells.integer (isNumeral.of_breaks breaks)
      intro _ digit further split
      subst split
      exact absurd rfl (breaks '.' rfl).2.2
  | float noKey isWhole isFraction =>
      apply Spells.float noKey _ (isFraction.of_breaks breaks)
      exact ⟨isWhole.1, isWhole.2.all, isWhole.2.stops⟩
  | string isQuote writes => exact .string (.inl rfl) (writes_flatMap_escape (known rfl))

end Reprint

end Lexeme

/-! ## All tokens -/

/-- What a token says, wherever it stands. -/
def Token.word (token : Token) : TokenKind × String := (token.kind, token.data)

/-- Tokens with a blank between any two of them. -/
def printTokens (tokens : List Token) : String := " ".intercalate (tokens.map Token.text)

/-- The letter behind the backslash at the first character of a string literal that is
foreign to literals. -/
def Token.foreignLetter? (token : Token) : Option Char :=
  if token.kind = .string then token.data.toList.findSome? Quoted.foreignLetter? else none

theorem Token.foreignLetter?_eq_some_iff {token : Token} {letter : Char} :
    token.foreignLetter? = some letter ↔ token.kind = .string ∧
      token.data.toList.findSome? Quoted.foreignLetter? = some letter := by
  simp [foreignLetter?]

theorem Token.known_of_foreignLetter? {token : Token} (none : token.foreignLetter? = none)
    (kind : token.kind = .string) :
    ∀ c ∈ token.data.toList, Quoted.foreignLetter? c = .none := by
  rw [foreignLetter?, if_pos kind] at none
  exact List.findSome?_eq_none_iff.mp none

theorem Token.eq_of_foreignLetter? {token : Token} {letter : Char}
    (foreign : token.foreignLetter? = some letter) : letter = '0' ∨ letter = 'u' := by
  obtain ⟨-, foreign⟩ := foreignLetter?_eq_some_iff.mp foreign
  obtain ⟨c, -, foreign⟩ := List.exists_of_findSome?_eq_some foreign
  exact (Quoted.escape_of_foreignLetter? foreign).1

namespace Lexer

open Lexeme

/-- Tokens with a blank in front of each. -/
def spaced (tokens : List Token) : List Char :=
  tokens.flatMap fun token => ' ' :: token.text.toList

theorem toList_printTokens (token : Token) (others : List Token) :
    (printTokens (token :: others)).toList = token.text.toList ++ spaced others := by
  induction others generalizing token with
  | nil => simp [printTokens, spaced]
  | cons second others ih =>
      have further := ih second
      rw [printTokens, List.map_cons] at further
      rw [printTokens, List.map_cons, List.map_cons, String.intercalate_cons_cons,
        String.toList_append, further, String.toList_append, List.append_assoc]
      rfl

/-- Tokens that are spelled in some text, the first one behind a point if `key` says so. -/
def Spelled : (key : Bool) → List Token → Prop
  | _, [] => True
  | key, token :: others =>
    (∃ lexeme rest, Spells key token.kind token.data.toList lexeme rest) ∧
      Spelled (token.isSymbol ".") others

theorem Tiles.spelled {before text : List Char} {afterPoint : Bool} {tokens : List Token}
    (tiles : Tiles before afterPoint text tokens) : Spelled afterPoint tokens := by
  induction tiles with
  | done => trivial
  | @token _ _ data lexeme rest _ kind token others _ spells same _ ih =>
      refine ⟨⟨lexeme, rest, ?_⟩, ih⟩
      rw [same]
      simpa using spells

theorem Spelled.of_append {key : Bool} {front back : List Token}
    (spelled : Spelled key (front ++ back)) : Spelled key front := by
  induction front generalizing key with
  | nil => trivial
  | cons token front ih => exact ⟨spelled.1, ih spelled.2⟩

section Printed

variable {gap more : List Char} {key : Bool} {token : Token} {tokens : List Token}

theorem isGap_blank (rest : List Char) : IsGap [' '] rest := .blank (by decide) .nil

theorem breaks_spaced (tokens : List Token) (breaks : Breaks more) :
    Breaks (spaced tokens ++ more) := by
  cases tokens with
  | nil => exact breaks
  | cons token others => exact breaks_cons List.mem_cons_self _

/-- A printed token is given again where it stands now. -/
theorem tokens_of_printed (before : List Char) (isGap : IsGap gap (token.text.toList ++ more))
    (spelled : ∃ lexeme rest, Spells key token.kind token.data.toList lexeme rest)
    (known : token.foreignLetter? = none) (breaks : Breaks more) :
    (⟨gap ++ (token.text.toList ++ more), .behind before, key⟩ : Lexer).tokens =
      (⟨more, .behind (before ++ gap ++ token.text.toList), token.isSymbol "."⟩ :
        Lexer).tokens.map
          ({ token with position := .behind (before ++ gap) } :: ·) := by
  obtain ⟨lexeme, rest, spells⟩ := spelled
  have again := spells.reprint (Token.known_of_foreignLetter? known) breaks
  rw [← toList_text] at again
  have given := tokens_of_spells before (token.isSymbol ".") isGap again
    (by rw [String.ofList_toList]; rfl)
  rwa [String.ofList_toList] at given

/-- **Printed tokens are given again**, one by one, before what stands behind them. -/
theorem tokens_of_spaced (before : List Char) (spelled : Spelled key tokens)
    (known : ∀ token ∈ tokens, token.foreignLetter? = none) (breaks : Breaks more) :
    ∃ others, others.map Token.word = tokens.map Token.word ∧
      (⟨spaced tokens ++ more, .behind before, key⟩ : Lexer).tokens =
        (⟨more, .behind (before ++ spaced tokens), pointAfter key tokens⟩ : Lexer).tokens.map
          (others ++ ·) := by
  induction tokens generalizing before key with
  | nil =>
      refine ⟨[], rfl, ?_⟩
      rw [spaced, List.flatMap_nil, List.append_nil]
      exact (congrFun Except.map_id _).symm
  | cons token tokens ih =>
      obtain ⟨here, spelled⟩ := spelled
      obtain ⟨knownHere, known⟩ := List.forall_mem_cons.mp known
      have first := tokens_of_printed before (isGap_blank _) here knownHere
        (breaks_spaced tokens breaks)
      obtain ⟨others, same, further⟩ := ih (before ++ [' '] ++ token.text.toList) spelled known
      refine ⟨{ token with position := .behind (before ++ [' ']) } :: others, ?_, ?_⟩
      · rw [List.map_cons, List.map_cons, same]
        rfl
      · have split : spaced (token :: tokens) = [' '] ++ token.text.toList ++ spaced tokens := rfl
        simp only [split, List.append_assoc, pointAfter_cons] at first further ⊢
        rw [first, further]
        cases Lexer.tokens _ <;> rfl

/-- A printed string with a foreign character stops the lexer. -/
theorem tokens_of_foreign {letter : Char} (before : List Char) (key : Bool)
    (isGap : IsGap gap (token.text.toList ++ more))
    (foreign : token.foreignLetter? = some letter) :
    ∃ position, (⟨gap ++ (token.text.toList ++ more), .behind before, key⟩ : Lexer).tokens =
      .error (.lexical (.invalidEscape letter) position) := by
  obtain ⟨kind, foreign⟩ := Token.foreignLetter?_eq_some_iff.mp foreign
  obtain ⟨front, c, back, split, here, clean⟩ := List.findSome?_eq_some_iff.mp foreign
  obtain ⟨-, behind, escaped⟩ := Quoted.escape_of_foreignLetter? here
  have scanned := (writes_flatMap_escape clean).scan_eq_badEscape (by decide)
    (Quoted.unescape?_of_foreignLetter? here) (behind ++ back.flatMap Quoted.escape ++ '"' :: more)
  have text : token.text.toList ++ more =
      '"' :: (front.flatMap Quoted.escape ++ '\\' :: letter ::
        (behind ++ back.flatMap Quoted.escape ++ '"' :: more)) := by
    rw [toList_text, kind, split]
    simp [printed, escaped]
  have failed : read key '"' _ = .failure (.invalidEscape letter) _ _ :=
    (read_of_isQuote (.inl rfl)).trans (by rw [readString, scanned])
  have noGap (rest : List Char) : NoGap ('"' :: rest) := by
    intro first head
    cases head
    exact (opening_apart (by decide)).2.2
  rw [text] at isGap ⊢
  exact ⟨_, tokens_of_error (next_of_failure isGap (noGap _) failed)⟩

/-- Tokens that are printed at the start of a text are given again. -/
theorem tokens_of_printTokens {others : List Token} (spelled : Spelled false (token :: others))
    (known : ∀ other ∈ token :: others, other.foreignLetter? = none) (breaks : Breaks more) :
    ∃ again behind pointed, again.map Token.word = (token :: others).map Token.word ∧
      (⟨token.text.toList ++ (spaced others ++ more), .behind [], false⟩ : Lexer).tokens =
        (⟨more, .behind behind, pointed⟩ : Lexer).tokens.map (again ++ ·) := by
  obtain ⟨knownHere, known⟩ := List.forall_mem_cons.mp known
  have first := tokens_of_printed [] .nil spelled.1 knownHere
    (breaks_spaced others breaks)
  obtain ⟨again, same, further⟩ := tokens_of_spaced token.text.toList spelled.2 known breaks
  refine ⟨{ token with position := .behind [] } :: again, token.text.toList ++ spaced others,
    pointAfter (token.isSymbol ".") others, ?_, ?_⟩
  · rw [List.map_cons, same]
    rfl
  · simp only [List.nil_append] at first
    rw [first, further]
    cases Lexer.tokens _ <;> rfl

end Printed

theorem tokens_of_nil {before : List Char} {key : Bool} :
    (⟨[], .behind before, key⟩ : Lexer).tokens = .ok [] :=
  tokens_of_none (next_of_gap .nil)

theorem tokenize_printTokens_cons (token : Token) (others : List Token) :
    tokenize (printTokens (token :: others)) =
      (⟨token.text.toList ++ spaced others, .behind [], false⟩ : Lexer).tokens := by
  rw [tokenize, ofString, toList_printTokens, Position.behind_nil]

end Lexer

open Lexer Lexeme in
/-- **Printed tokens.** The tokens of a text, printed with blanks between them, split again
into tokens that say the same, unless a string literal has a foreign character. At the
first of these an escape sequence is reported that a literal does not know. -/
theorem tokenize_printTokens {source : String} {tokens : List Token}
    (given : tokenize source = .ok tokens) :
    (tokens.findSome? Token.foreignLetter? = none →
      ∃ others, tokenize (printTokens tokens) = .ok others ∧
        others.map Token.word = tokens.map Token.word) ∧
    ∀ letter, tokens.findSome? Token.foreignLetter? = some letter →
      (letter = '0' ∨ letter = 'u') ∧
      ∃ error, tokenize (printTokens tokens) = .error error ∧ error.origin = .tokenizer ∧
        error.message = "invalid escape sequence: \\" ++ letter.toString := by
  have spelled := (tiles_of_tokenize given).spelled
  refine ⟨fun none => ?_, fun letter some => ?_⟩
  · have known := List.findSome?_eq_none_iff.mp none
    cases tokens with
    | nil => exact ⟨[], tokens_of_none rfl, rfl⟩
    | cons token others =>
        obtain ⟨again, behind, pointed, same, printed⟩ :=
          tokens_of_printTokens spelled known breaks_nil
        rw [List.append_nil, tokens_of_nil, ← tokenize_printTokens_cons] at printed
        refine ⟨again, ?_, same⟩
        rw [printed, Except.map, List.append_nil]
  · obtain ⟨front, bad, back, rfl, foreign, known⟩ := List.findSome?_eq_some_iff.mp some
    refine ⟨Token.eq_of_foreignLetter? foreign, ?_⟩
    cases front with
    | nil =>
        obtain ⟨position, failed⟩ := tokens_of_foreign [] false
          (.nil : IsGap [] (bad.text.toList ++ spaced back)) foreign
        refine ⟨.lexical (.invalidEscape letter) position, ?_, rfl, rfl⟩
        rw [List.nil_append, tokenize_printTokens_cons]
        exact failed
    | cons token front =>
        have breaks := breaks_cons List.mem_cons_self (bad.text.toList ++ spaced back)
        obtain ⟨again, behind, pointed, -, printed⟩ :=
          tokens_of_printTokens spelled.of_append known breaks
        obtain ⟨position, failed⟩ := tokens_of_foreign behind pointed
          (isGap_blank (bad.text.toList ++ spaced back)) foreign
        rw [List.singleton_append] at failed
        have split : spaced front ++ ' ' :: (bad.text.toList ++ spaced back) =
            spaced (front ++ bad :: back) := by simp [spaced]
        refine ⟨.lexical (.invalidEscape letter) position, ?_, rfl, rfl⟩
        rw [List.cons_append, tokenize_printTokens_cons, ← split, printed, failed]
        rfl

/-- A key behind a point stays one, and the second literal is where reading stops. -/
theorem tokenize_printTokens_foreign_literal :
    let tokens : List Token := [⟨.reference, "a", ⟨0, 1, 1⟩⟩, ⟨.symbol, ".", ⟨2, 1, 3⟩⟩,
      ⟨.integer, "1", ⟨4, 1, 5⟩⟩, ⟨.string, "'\t", ⟨5, 1, 6⟩⟩, ⟨.string, "e\u0301\x00", ⟨9, 1, 10⟩⟩]
    tokenize "$a. 1\"'\t\"\"e\u0301\x00\"" = .ok tokens ∧
      ∃ error, tokenize "$a . 1 \"'\\t\" \"e\\u\x7b301\x7d\\0\"" = .error error ∧
        error.origin = .tokenizer ∧ error.message = "invalid escape sequence: \\u" := by
  intro tokens
  have given : tokenize "$a. 1\"'\t\"\"e\u0301\x00\"" = .ok tokens := by
    decide +kernel
  have foreign : tokens.findSome? Token.foreignLetter? = some 'u' := by decide +kernel
  exact ⟨given, ((tokenize_printTokens given).2 'u' foreign).2⟩

end DataFormula
