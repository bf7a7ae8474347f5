/-!
# JSON documents

The JSON values that formulas are exported as, and their two texts: compact, and
indented by two blanks for each level. Both texts write the same strings and
numbers; only blanks and line ends outside them differ.
-/

namespace DataFormula

mutual

/-- A JSON value. A number is kept as its numeral. -/
inductive Json where
  /-- A string. -/
  | string (text : String)
  /-- A number, by its numeral. -/
  | number (numeral : String)
  /-- An object. -/
  | object (members : Members)

/-- The members of a JSON object in the order in which they are written. -/
inductive Members where
  /-- No members. -/
  | nil
  /-- One more member in front. -/
  | cons (name : String) (value : Json) (rest : Members)

end

/-- Members with one more in front if there is a value for it. -/
def Members.optional (name : String) (value : Option Json) (rest : Members) : Members :=
  match value with
  | some value => .cons name value rest
  | none => rest

namespace Json

/-- Two hexadecimal digits. -/
def hexPair (n : Nat) : List Char := [Nat.digitChar (n / 16), Nat.digitChar (n % 16)]

/-- The form of one character inside a string. -/
def escape (c : Char) : List Char :=
  if c = '"' then ['\\', '"']
  else if c = '\\' then ['\\', '\\']
  else if c = '\x08' then ['\\', 'b']
  else if c = '\t' then ['\\', 't']
  else if c = '\n' then ['\\', 'n']
  else if c = '\x0c' then ['\\', 'f']
  else if c = '\r' then ['\\', 'r']
  else if c.toNat < 0x20 then ['\\', 'u', '0', '0'] ++ hexPair c.toNat
  else [c]

/-- A string between its quotes. -/
def quote (text : String) : List Char := '"' :: text.toList.flatMap escape ++ ['"']

mutual

/-- The text of a value without blanks. -/
def compactChars : Json → List Char
  | string text => quote text
  | number numeral => numeral.toList
  | object .nil => ['\x7b', '\x7d']
  | object (.cons name value rest) =>
    '\x7b' :: quote name ++ ':' :: compactChars value ++ compactRest rest

/-- The text of an object behind one of its members, without blanks. -/
def compactRest : Members → List Char
  | .nil => ['\x7d']
  | .cons name value rest => ',' :: quote name ++ ':' :: compactChars value ++ compactRest rest

end

/-- A line end, and the blanks before a text of some depth. -/
def newline (depth : Nat) : List Char := '\n' :: List.replicate (2 * depth) ' '

mutual

/-- The indented text of a value at some depth. -/
def prettyChars (depth : Nat) : Json → List Char
  | string text => quote text
  | number numeral => numeral.toList
  | object .nil => ['\x7b', '\x7d']
  | object (.cons name value rest) =>
    '\x7b' :: newline (depth + 1) ++ quote name ++ [':', ' '] ++ prettyChars (depth + 1) value ++
      prettyRest depth rest

/-- The indented text of an object at some depth behind one of its members. -/
def prettyRest (depth : Nat) : Members → List Char
  | .nil => newline depth ++ ['\x7d']
  | .cons name value rest =>
    ',' :: newline (depth + 1) ++ quote name ++ [':', ' '] ++ prettyChars (depth + 1) value ++
      prettyRest depth rest

end

/-- The text of a value without blanks. -/
def compact (json : Json) : String := String.ofList json.compactChars

/-- The text of a value with one member a line. -/
def pretty (json : Json) : String := String.ofList (json.prettyChars 0)

end Json

end DataFormula
