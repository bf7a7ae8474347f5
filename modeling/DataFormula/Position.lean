/-!
# Places in a text

A place is counted three ways at once: by the characters before it, by its line
and by its column. Only the line feed starts a line.
-/

namespace DataFormula

/-- A place in a text. -/
structure Position where
  /-- The number of characters before the place. -/
  offset : Nat
  /-- The line, counted from one. -/
  line : Nat
  /-- The column, counted from one. -/
  column : Nat
deriving DecidableEq

namespace Position

/-- The place before the first character. -/
def start : Position := ⟨0, 1, 1⟩

/-- The place behind one more character. -/
def advance (position : Position) (c : Char) : Position :=
  if c = '\n' then ⟨position.offset + 1, position.line + 1, 1⟩
  else ⟨position.offset + 1, position.line, position.column + 1⟩

/-- The place behind a run of characters. -/
def after (position : Position) (text : List Char) : Position :=
  text.foldl advance position

/-- Line and column with a colon between them. -/
def text (position : Position) : String :=
  position.line.repr ++ ":" ++ position.column.repr

@[simp]
theorem after_nil (position : Position) : position.after [] = position := rfl

@[simp]
theorem after_cons (position : Position) (c : Char) (text : List Char) :
    position.after (c :: text) = (position.advance c).after text := rfl

/-- Two runs of characters are passed one after the other. -/
theorem after_append (position : Position) (first second : List Char) :
    position.after (first ++ second) = (position.after first).after second :=
  List.foldl_append

/-- The offset counts the characters passed. -/
theorem offset_after (position : Position) (text : List Char) :
    (position.after text).offset = position.offset + text.length := by
  induction text generalizing position with
  | nil => rfl
  | cons c text ih =>
    have step : (position.advance c).offset = position.offset + 1 := by
      unfold advance
      split <;> rfl
    rw [after_cons, ih, step, List.length_cons]
    omega

end Position

end DataFormula
