import DataFormula.Text.Unprintable

/-!
# Quoted text

`quote` writes a text on one line between double quotes, with every character
visible. `scan` reads a string literal, which either quote may open and the same
quote closes. The two do not meet everywhere: a literal knows six escapes, while
quoting also writes `\0` and code points in hexadecimal.
-/

namespace DataFormula.Text.Quoted

/-- The quoted form of one character. -/
def escape (c : Char) : List Char :=
  if c = '\x00' then ['\\', '0']
  else if c = '\t' then ['\\', 't']
  else if c = '\r' then ['\\', 'r']
  else if c = '\n' then ['\\', 'n']
  else if c = '"' then ['\\', '"']
  else if c = '\\' then ['\\', '\\']
  else if isUnprintable c then ['\\', 'u', '\x7b'] ++ Nat.toDigits 16 c.toNat ++ ['\x7d']
  else [c]

/-- A text between double quotes, its characters escaped where needed. -/
def quote (text : String) : String :=
  String.ofList ('"' :: text.toList.flatMap escape ++ ['"'])

/-- An apostrophe needs no escape, a mark that joins the letter before it does. -/
example : quote "it's\n" = "\"it's\\n\"" ∧ quote "e\u0301" = "\"e\\u\x7b301\x7d\"" := by
  decide +kernel

/-- The character that a backslash and a letter stand for in a literal. -/
def unescape? (letter : Char) : Option Char :=
  if letter = 'n' then some '\n'
  else if letter = 't' then some '\t'
  else if letter = 'r' then some '\r'
  else if letter = '"' then some '"'
  else if letter = '\'' then some '\''
  else if letter = '\\' then some '\\'
  else none

/-- What reading a literal behind its opening quote comes to. -/
inductive Scan where
  /-- The literal holds `data`; with its closing quote it takes `length` characters. -/
  | closed (data : List Char) (length : Nat)
  /-- The backslash behind `before` characters is followed by `letter`, which
  makes no escape. -/
  | badEscape (before : Nat) (letter : Char)
  /-- The text ends inside the literal. -/
  | unterminated
deriving DecidableEq

/-- A scan with one more character in front, written in `width` characters. -/
def Scan.push (c : Char) (width : Nat) : Scan → Scan
  | closed data length => closed (c :: data) (length + width)
  | badEscape before letter => badEscape (before + width) letter
  | unterminated => unterminated

/-- Reads a literal behind its opening quote, which is also the closing one. -/
def scan (quote : Char) : List Char → Scan
  | [] => .unterminated
  | c :: text =>
    if c = quote then .closed [] 1
    else if c = '\\' then
      match text with
      | [] => .unterminated
      | letter :: text =>
        match unescape? letter with
        | some meant => (scan quote text).push meant 2
        | none => .badEscape 0 letter
    else (scan quote text).push c 1

/-- A closed literal lies inside the text read, and takes at least the closing
quote. -/
theorem length_le_of_scan_eq_closed {mark : Char} {text data : List Char} {length : Nat}
    (closed : scan mark text = .closed data length) : 0 < length ∧ length ≤ text.length := by
  fun_induction scan mark text generalizing data length with
  | case1 => simp at closed
  | case2 text =>
    simp only [Scan.closed.injEq] at closed
    simp [← closed.2]
  | case3 => simp at closed
  | case4 letter text meant known notMark ih =>
    cases result : scan mark text with
    | closed inner width =>
      have := ih result
      simp only [result, Scan.push, Scan.closed.injEq] at closed
      simp only [List.length_cons]
      omega
    | badEscape before letter => simp [result, Scan.push] at closed
    | unterminated => simp [result, Scan.push] at closed
  | case5 => simp at closed
  | case6 c text notMark notEscape ih =>
    cases result : scan mark text with
    | closed inner width =>
      have := ih result
      simp only [result, Scan.push, Scan.closed.injEq] at closed
      simp only [List.length_cons]
      omega
    | badEscape before letter => simp [result, Scan.push] at closed
    | unterminated => simp [result, Scan.push] at closed

end DataFormula.Text.Quoted
