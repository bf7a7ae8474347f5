import DataFormula.Proofs.Parser.Reuse

/-!
# Operations on cursors

Whatever is done with a cursor, one operation after the other, it stays at a place of its
tokens (`Cursor.Among.after`), even if a step back comes before the first token, a jump leads
behind the last one, or a parser gives up in the middle of a formula. So the tokens before the
cursor and those behind it are always all of them, and all ways to ask whether one is left
agree (`Cursor.operations_consistent`).
-/

namespace DataFormula

open Grammar (maxDepth)

namespace Cursor

/-- What can be done with a cursor. -/
inductive Operation where
  /-- Takes the next token. -/
  | next
  /-- Looks at the next token. -/
  | peek
  /-- Steps back over a token. -/
  | returnToken
  /-- Jumps to a place. -/
  | setPosition (place : Nat)
  /-- Takes the next token, which has to be there. -/
  | requireNext (cause : GrammarCause)
  /-- Looks at all tokens that are left. -/
  | remaining
  /-- Asks whether a token is left. -/
  | hasNext
  /-- Reads a formula with a new parser. -/
  | parse

/-- The cursor behind an operation. -/
def Operation.perform (cursor : Cursor) : Operation → Cursor
  | next => cursor.next.2
  | returnToken => cursor.returnToken
  | setPosition place => cursor.setPosition place
  | requireNext cause => (cursor.requireNext cause).2
  | parse => cursor.parse.2
  | peek | remaining | hasNext => cursor

/-- The cursor behind some operations, one after the other. -/
def after (cursor : Cursor) (operations : List Operation) : Cursor :=
  operations.foldl Operation.perform cursor

/-- A cursor is at a place of some tokens. -/
structure Among (tokens : List Token) (cursor : Cursor) : Prop where
  unchanged : cursor.tokens = tokens
  inside : cursor.position ≤ tokens.length

section Step

variable {tokens : List Token} {token : Token} {cursor moved : Cursor} {cause : GrammarCause}
  {fuel : Nat}

theorem next_of_some (here : cursor.peek? = some token) :
    cursor.next = (some token, { cursor with position := cursor.position + 1 }) := by
  rw [next, here]

theorem next_of_none (nothing : cursor.peek? = none) : cursor.next = (none, cursor) := by
  rw [next, nothing]

/-- The next token is the one that is seen. -/
theorem next_fst (cursor : Cursor) : cursor.next.1 = cursor.peek? := by
  cases here : cursor.peek? with
  | none => rw [next_of_none here]
  | some token => rw [next_of_some here]

theorem requireNext_of_none (nothing : cursor.peek? = none) :
    cursor.requireNext cause = (.error (.grammatical cause cursor.last?), cursor) := by
  rw [requireNext, next_of_none nothing]

/-- A token that has to be there is taken as any other. -/
theorem requireNext_snd (cursor : Cursor) : (cursor.requireNext cause).2 = cursor.next.2 := by
  cases here : cursor.peek? with
  | none => rw [requireNext_of_none here, next_of_none here]
  | some token => rw [requireNext, next_of_some here]

/-- A step back behind a token that was taken leads to where it was. -/
theorem returnToken_of_next (taken : cursor.next = (some token, moved)) :
    moved.returnToken = cursor := by
  cases here : cursor.peek? with
  | none =>
      rw [next_of_none here] at taken
      cases taken
  | some token =>
      rw [next_of_some here] at taken
      cases taken
      rfl

theorem Among.next (among : cursor.Among tokens) : cursor.next.2.Among tokens := by
  cases here : cursor.peek? with
  | none =>
      rw [next_of_none here]
      exact among
  | some token =>
      obtain ⟨below, -⟩ := List.getElem?_eq_some_iff.mp here
      rw [among.unchanged] at below
      rw [next_of_some here]
      exact ⟨among.unchanged, below⟩

theorem Among.eq_before (among : cursor.Among tokens) :
    cursor = .before tokens (tokens.drop cursor.position) := by
  obtain ⟨unchanged, inside⟩ := among
  rw [before, List.length_drop, Nat.sub_sub_self inside, ← unchanged]

/-- A new parser comes to what the cursor says, and leaves it at a place of its tokens. -/
theorem Among.parse (among : cursor.Among tokens) (enough : 3 * maxDepth < fuel) :
    cursor.parse.2.Among tokens ∧ ∃ last,
      (Parsing.parse fuel).run.run (.ofCursor cursor) = some (cursor.parse.1, last) ∧
        last.cursor = cursor.parse.2 := by
  have stands := Parser.stands_ofCursor (List.drop_suffix cursor.position tokens)
  rw [← among.eq_before] at stands
  obtain ⟨⟨first, result, last⟩, rest, rfl, ran, -, independent⟩ :=
    Parser.exists_call stands enough
  have parses : cursor.parse = (result, last.cursor) := independent.parses
  rw [parses]
  exact ⟨⟨independent.unchanged, independent.inside⟩, last, ran, rfl⟩

/-- No operation leads away from the tokens. -/
theorem Among.perform (among : cursor.Among tokens) (operation : Operation) :
    (operation.perform cursor).Among tokens := by
  cases operation with
  | next => exact among.next
  | returnToken => exact ⟨among.unchanged, Nat.le_trans (Nat.sub_le _ 1) among.inside⟩
  | setPosition place =>
      refine ⟨among.unchanged, ?_⟩
      rw [← among.unchanged]
      exact Nat.min_le_right _ _
  | requireNext cause =>
      rw [Operation.perform, requireNext_snd]
      exact among.next
  | parse => exact (among.parse (Nat.lt_succ_self _)).1
  | peek | remaining | hasNext => exact among

/-- **No operations lead away from the tokens.** -/
theorem Among.after (among : cursor.Among tokens) (operations : List Operation) :
    (cursor.after operations).Among tokens := by
  induction operations generalizing cursor with
  | nil => exact among
  | cons operation operations ih => exact ih (among.perform operation)

/-- Nothing is seen exactly if no tokens are left. -/
theorem peek?_eq_none_iff : cursor.peek? = none ↔ cursor.remaining = [] := by
  rw [peek?, remaining, ← List.head?_drop, List.head?_eq_none_iff]

theorem hasNext_eq_false_iff : cursor.hasNext = false ↔ cursor.remaining = [] := by
  rw [hasNext, remaining, decide_eq_false_iff_not, Nat.not_lt, List.drop_eq_nil_iff]

theorem Among.take_append_remaining (among : cursor.Among tokens) :
    tokens.take cursor.position ++ cursor.remaining = tokens := by
  rw [remaining, among.unchanged, List.take_append_drop]

/-- The token before a cursor is the last of those before it. -/
theorem Among.last?_eq (among : cursor.Among tokens) :
    cursor.last? = (tokens.take cursor.position).getLast? := by
  rw [last?, among.unchanged, List.getLast?_eq_getElem?, List.length_take,
    Nat.min_eq_left among.inside]
  by_cases start : cursor.position = 0
  · simp [start]
  · rw [if_neg start, List.getElem?_take_of_lt (by omega)]

end Step

/-- What holds of a cursor over some tokens at any time. -/
structure Consistent (tokens : List Token) (cursor : Cursor) : Prop extends
    cursor.Among tokens where
  /-- The tokens before the cursor and those behind it are all tokens. -/
  split : tokens.take cursor.position ++ cursor.remaining = tokens
  /-- All ways to ask whether a token is left agree. -/
  hasNext : cursor.hasNext = true ↔ cursor.remaining ≠ []
  peek : cursor.peek?.isSome = true ↔ cursor.remaining ≠ []
  next : cursor.next.1.isSome = true ↔ cursor.remaining ≠ []
  /-- A token that was taken can be put back. -/
  returned : ∀ token moved, cursor.next = (some token, moved) → moved.returnToken = cursor
  /-- At the end no token can be required. The error blames the last token before the cursor,
  if there is one, and the cursor does not move. -/
  required : cursor.remaining = [] → ∀ cause, cursor.requireNext cause =
    (.error (.grammatical cause (tokens.take cursor.position).getLast?), cursor)
  /-- A new parser comes to what the cursor says. -/
  parsed : ∀ fuel, 3 * maxDepth < fuel → ∃ last,
    (Parsing.parse fuel).run.run (.ofCursor cursor) = some (cursor.parse.1, last) ∧
      last.cursor = cursor.parse.2

/-- **Cursors stay consistent.** Over any tokens, whatever operations were done before, in
whatever order and with whatever results. -/
theorem operations_consistent (tokens : List Token) (operations : List Operation) :
    ((ofTokens tokens).after operations).Consistent tokens := by
  have start : (ofTokens tokens).Among tokens := ⟨rfl, Nat.zero_le _⟩
  have among := start.after operations
  generalize (ofTokens tokens).after operations = cursor at among
  have seen : cursor.peek?.isSome = true ↔ cursor.remaining ≠ [] := by
    rw [Option.isSome_iff_ne_none, ne_eq, peek?_eq_none_iff]
  exact {
    among with
    split := among.take_append_remaining
    hasNext := by rw [← Bool.not_eq_false, hasNext_eq_false_iff]
    peek := seen
    next := by rw [next_fst, seen]
    returned := fun token moved taken => returnToken_of_next taken
    required := fun nothing cause => by
      rw [requireNext_of_none (peek?_eq_none_iff.mpr nothing), among.last?_eq]
    parsed := fun fuel enough => (among.parse enough).2 }

/-- A jump behind the end comes to the end, and a formula that goes wrong in the middle leaves
the cursor there. -/
example :
    let tokens : List Token := [⟨.integer, "1", .start⟩, ⟨.symbol, "*", ⟨1, 1, 2⟩⟩]
    ((ofTokens tokens).after [.parse]).position = 2 ∧
      ((ofTokens tokens).after [.setPosition 9, .returnToken, .next, .next]).position = 2 ∧
      ((ofTokens tokens).after [.returnToken, .next, .returnToken]).position = 0 := by
  decide +kernel

end Cursor

end DataFormula
