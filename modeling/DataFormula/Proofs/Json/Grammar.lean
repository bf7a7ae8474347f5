import DataFormula.Proofs.Lexer.Spelling
import Mathlib.Data.Bool.AllAny

/-!
# The grammar of JSON texts

The texts of JSON values, with blanks between any two parts, strings with any of their
escapes, and numbers in any of their forms. The rules go through a text from left to right:
`Json.Spells text document rest` says that a text starts with a value and goes on with `rest`
behind it. Two marks of a surrogate pair are one character, and one of them alone is none.
-/

namespace DataFormula.Json

open Lexeme (IsRun)

/-- What a JSON text says. A number is kept as its numeral. -/
inductive Document where
  | null
  | boolean (truth : Bool)
  | number (numeral : String)
  | string (text : String)
  | array (items : List Document)
  | object (members : List (String × Document))

namespace Document

/-- The names of the members of an object. -/
def names : Document → List String
  | object members => members.map Prod.fst
  | _ => []

/-- The member of an object with a given name. -/
def get? : Document → String → Option Document
  | object members, name => members.lookup name
  | _, _ => none

end Document

/-! ## Blanks -/

/-- The blanks that may stand between two parts of a text. -/
def blanks : List Char := [' ', '\t', '\n', '\r']

/-- A text with blanks in front of what it goes on with. -/
inductive Blanks : (text rest : List Char) → Prop where
  | done {rest : List Char} : Blanks rest rest
  | blank {c : Char} {text rest : List Char} (member : c ∈ blanks) (further : Blanks text rest) :
      Blanks (c :: text) rest

/-! ## Numbers -/

/-- Decimal digits, at least one. -/
def IsDigits (text : List Char) : Prop := text ≠ [] ∧ ∀ c ∈ text, c.isDigit = true

/-- One of the marks, or nothing. -/
def IsSign (marks text : List Char) : Prop := text = [] ∨ ∃ c ∈ marks, text = [c]

/-- The digits of a whole number, without a zero in front that is not needed. -/
def IsWhole (text : List Char) : Prop := IsDigits text ∧ (text.head? = some '0' → text = ['0'])

/-- A point and the digits behind it, or nothing. -/
def IsFraction (text : List Char) : Prop :=
  text = [] ∨ ∃ digits, IsDigits digits ∧ text = '.' :: digits

/-- A power of ten, or nothing. -/
def IsExponent (text : List Char) : Prop :=
  text = [] ∨ ∃ mark sign digits, mark ∈ ['e', 'E'] ∧ IsSign ['+', '-'] sign ∧ IsDigits digits ∧
    text = mark :: (sign ++ digits)

/-- The numerals of JSON numbers. -/
inductive IsNumeral : List Char → Prop where
  | parts {sign whole fraction exponent : List Char} (isSign : IsSign ['-'] sign)
      (isWhole : IsWhole whole) (isFraction : IsFraction fraction)
      (isExponent : IsExponent exponent) :
      IsNumeral (sign ++ (whole ++ (fraction ++ exponent)))

/-! ## Strings -/

/-- The letters that a backslash may stand before, but for `u`, and what they mean then. -/
def escapes : List (Char × Char) :=
  [('"', '"'), ('\\', '\\'), ('/', '/'), ('b', '\x08'), ('f', '\x0c'), ('n', '\n'), ('r', '\r'),
    ('t', '\t')]

/-- The value of a hexadecimal digit in either case. -/
def hexDigit? (c : Char) : Option Nat :=
  if '0' ≤ c ∧ c ≤ '9' then some (c.toNat - '0'.toNat)
  else if 'a' ≤ c ∧ c ≤ 'f' then some (c.toNat - 'a'.toNat + 10)
  else if 'A' ≤ c ∧ c ≤ 'F' then some (c.toNat - 'A'.toNat + 10)
  else none

/-- The number that four hexadecimal digits write at the start of a text, and what stands
behind them. -/
def unit? : List Char → Option (Nat × List Char)
  | a :: b :: c :: d :: rest => do
    let a ← hexDigit? a
    let b ← hexDigit? b
    let c ← hexDigit? c
    let d ← hexDigit? d
    some (((a * 16 + b) * 16 + c) * 16 + d, rest)
  | _ => none

/-- The first number of a surrogate pair. -/
def IsHigh (unit : Nat) : Prop := 0xd800 ≤ unit ∧ unit < 0xdc00

/-- The second number of a surrogate pair. -/
def IsLow (unit : Nat) : Prop := 0xdc00 ≤ unit ∧ unit < 0xe000

/-- The code point of a surrogate pair. -/
def pairCode (high low : Nat) : Nat := 0x10000 + (high - 0xd800) * 0x400 + (low - 0xdc00)

/-- One character inside a string: as it is, or as one of the escapes. -/
inductive SpellsChar : (text : List Char) → Char → (rest : List Char) → Prop where
  | plain {c : Char} {rest : List Char} (visible : 0x20 ≤ c.toNat) (notMark : c ≠ '"')
      (notEscape : c ≠ '\\') : SpellsChar (c :: rest) c rest
  | escape {letter c : Char} {rest : List Char} (member : (letter, c) ∈ escapes) :
      SpellsChar ('\\' :: letter :: rest) c rest
  | code {unit : Nat} {text rest : List Char} (given : unit? text = some (unit, rest))
      (notHigh : ¬ IsHigh unit) (notLow : ¬ IsLow unit) :
      SpellsChar ('\\' :: 'u' :: text) (Char.ofNat unit) rest
  | pair {high low : Nat} {text behind rest : List Char}
      (first : unit? text = some (high, '\\' :: 'u' :: behind))
      (second : unit? behind = some (low, rest)) (isHigh : IsHigh high) (isLow : IsLow low) :
      SpellsChar ('\\' :: 'u' :: text) (Char.ofNat (pairCode high low)) rest

/-- The characters of a string up to its closing quote. -/
inductive SpellsString : (text data rest : List Char) → Prop where
  | close {rest : List Char} : SpellsString ('"' :: rest) [] rest
  | char {c : Char} {text behind data rest : List Char} (here : SpellsChar text c behind)
      (further : SpellsString behind data rest) : SpellsString text (c :: data) rest

/-! ## Values -/

/-- The values that are words. -/
def words : List (List Char × Document) :=
  [(['n', 'u', 'l', 'l'], .null), (['t', 'r', 'u', 'e'], .boolean true),
    (['f', 'a', 'l', 's', 'e'], .boolean false)]

section Parts

variable {α : Type} (rule : (text : List Char) → α → (rest : List Char) → Prop)

/-- Things with blanks around them and a comma between any two, up to a closing bracket. -/
inductive Separated (close : Char) : (text : List Char) → List α → (rest : List Char) → Prop where
  | last {text inner behind rest : List Char} {a : α} (before : Blanks text inner)
      (here : rule inner a behind) (after : Blanks behind (close :: rest)) :
      Separated close text [a] rest
  | more {text inner behind others rest : List Char} {a : α} {further : List α}
      (before : Blanks text inner) (here : rule inner a behind)
      (after : Blanks behind (',' :: others)) (others : Separated close others further rest) :
      Separated close text (a :: further) rest

/-- A string, a colon and something else, with blanks around the colon. -/
inductive Named : (text : List Char) → String × α → (rest : List Char) → Prop where
  | named {text gap colon inner name rest : List Char} {a : α}
      (string : SpellsString text name gap) (before : Blanks gap (':' :: colon))
      (after : Blanks colon inner) (here : rule inner a rest) :
      Named ('"' :: text) (.ofList name, a) rest

end Parts

/-- A value at the start of a text. -/
inductive Spells : (text : List Char) → Document → (rest : List Char) → Prop where
  | word {word rest : List Char} {document : Document} (member : (word, document) ∈ words) :
      Spells (word ++ rest) document rest
  | number {numeral rest : List Char} (isNumeral : IsNumeral numeral) :
      Spells (numeral ++ rest) (.number (.ofList numeral)) rest
  | string {text data rest : List Char} (inside : SpellsString text data rest) :
      Spells ('"' :: text) (.string (.ofList data)) rest
  | emptyArray {text rest : List Char} (gap : Blanks text (']' :: rest)) :
      Spells ('[' :: text) (.array []) rest
  | array {text rest : List Char} {items : List Document}
      (inside : Separated Spells ']' text items rest) :
      Spells ('[' :: text) (.array items) rest
  | emptyObject {text rest : List Char} (gap : Blanks text ('\x7d' :: rest)) :
      Spells ('\x7b' :: text) (.object []) rest
  | object {text rest : List Char} {members : List (String × Document)}
      (inside : Separated (Named Spells) '\x7d' text members rest) :
      Spells ('\x7b' :: text) (.object members) rest

/-- A whole text says a document: a value with blanks around it, and nothing else. -/
def IsText (text : String) (document : Document) : Prop :=
  ∃ inner behind, Blanks text.toList inner ∧ Spells inner document behind ∧ Blanks behind []

end DataFormula.Json
