import DataFormula.SyntaxError
import DataFormula.Text.Alphanumeric
import DataFormula.Text.Blank

/-!
# Lexemes

What a text starts with: a gap of blanks and comments (`gapLength`), or the text
of one token (`read`). Reading tells how far the token reaches, or where reading
failed and where it stopped, always counted from the head of the text.
-/

namespace DataFormula

/-- What reading one token at the head of a text comes to. -/
inductive Reading where
  /-- The first `length` characters are a token that says `data`. -/
  | lexeme (kind : TokenKind) (data : List Char) (length : Nat)
  /-- There is no token, for a cause at `place`; reading went as far as `stop`. -/
  | failure (cause : LexicalCause) (place stop : Nat)
deriving DecidableEq

namespace Lexeme

/-- The characters that are a token of their own. -/
def punctuation : List Char :=
  ['+', '-', '*', '/', '%', '.', ',', ':', '(', ')', '[', ']', '\x7b', '\x7d', '=', '<', '>',
    '!', '&', '|', '?']

/-- The number of characters at the head of a text that are blanks or comments.
A comment runs from `#` to the end of its line; `comment` says whether the head
is inside one. -/
def gapLength (comment : Bool) : List Char → Nat
  | [] => 0
  | c :: text =>
    if comment then gapLength (c != '\n') text + 1
    else if Text.isBlank c then gapLength false text + 1
    else if c = '#' then gapLength true text + 1
    else 0

/-- A number: digits, and behind a point more digits unless the number is a key. -/
def readNumber (key : Bool) (text : List Char) : Reading :=
  let whole := text.takeWhile Char.isDigit
  match text.dropWhile Char.isDigit with
  | '.' :: behind =>
    let fraction := behind.takeWhile Char.isDigit
    if key || fraction.isEmpty then .lexeme .integer whole whole.length
    else .lexeme .float (whole ++ '.' :: fraction) (whole.length + 1 + fraction.length)
  | _ => .lexeme .integer whole whole.length

/-- A reference behind its `$`: a name or digits. -/
def readReference (text : List Char) : Reading :=
  match text with
  | [] => .failure .missingName 0 1
  | c :: _ =>
    if Text.isNameStart c then
      let name := text.takeWhile Text.isNamePart
      .lexeme .reference name (name.length + 1)
    else if c.isDigit then
      let digits := text.takeWhile Char.isDigit
      .lexeme .reference digits (digits.length + 1)
    else .failure .missingName 0 1

/-- A string literal behind its opening quote. -/
def readString (quote : Char) (text : List Char) : Reading :=
  match Text.Quoted.scan quote text with
  | .closed data length => .lexeme .string data (length + 1)
  | .badEscape before letter => .failure (.invalidEscape letter) (before + 1) (before + 2)
  | .unterminated => .failure .unterminatedString 0 (text.length + 1)

/-- The token at the head of a text that starts with `c`; `key` says whether it
stands behind a point. -/
def read (key : Bool) (c : Char) (text : List Char) : Reading :=
  if c = '$' then readReference text
  else if c = '"' ∨ c = '\'' then readString c text
  else if c.isDigit then readNumber key (c :: text)
  else if Text.isNameStart c then
    let word := (c :: text).takeWhile Text.isNamePart
    .lexeme .identifier word word.length
  else if punctuation.contains c then .lexeme .symbol [c] 1
  else .failure (.unexpectedCharacter c) 0 0

/-- A token takes at least one character. -/
theorem length_pos_of_read_eq_lexeme {key : Bool} {c : Char} {text data : List Char}
    {kind : TokenKind} {length : Nat} (result : read key c text = .lexeme kind data length) :
    0 < length := by
  unfold read at result
  split at result
  · unfold readReference at result
    split at result
    · cases result
    · simp only at result
      split at result
      · cases result
        omega
      · split at result
        · cases result
          omega
        · cases result
  · split at result
    · unfold readString at result
      split at result <;> cases result
      omega
    · split at result
      · rename_i digit
        have whole : 0 < ((c :: text).takeWhile Char.isDigit).length := by
          simp [digit]
        unfold readNumber at result
        simp only at result
        split at result
        · split at result
          · cases result
            exact whole
          · cases result
            omega
        · cases result
          exact whole
      · split at result
        · rename_i start
          cases result
          simp [Text.isNamePart_of_isNameStart start]
        · split at result <;> cases result
          omega

end Lexeme

end DataFormula
