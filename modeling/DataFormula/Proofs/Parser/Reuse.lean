import DataFormula.Proofs.Parser.Rules

/-!
# Parsers that are used again

A parser can be used again after anything. Whatever a call of it comes to, the next one comes
to what a new parser would at the same place (`Parser.Call.Independent`): the count of levels
is back at zero, and the cursor has moved forward among the same tokens. So the results of
one parser are those of `Cursor.parseMany` (`Parser.calls_independent`).
-/

namespace DataFormula

open Grammar (maxDepth)

namespace Parser

/-- A call of a parser over some tokens owes nothing to the calls before it and leaves
nothing to those behind it but a place. -/
structure Call.Independent (fuel : Nat) (tokens : List Token) (call : Call) : Prop where
  /-- A new parser at the same place comes to the same result, and to the same place. -/
  fresh : ∃ last, (Parsing.parse fuel).run.run (.ofCursor call.before.cursor) =
    some (call.result, last) ∧ last.cursor = call.after.cursor
  /-- The cursor of the call parses like this by itself. -/
  parses : call.before.cursor.parse = (call.result, call.after.cursor)
  restored : call.after.depth = 0
  bounded : ∀ value ∈ call.after.depths, 0 ≤ value ∧ value ≤ maxDepth
  unchanged : call.after.cursor.tokens = tokens
  ordered : call.before.cursor.position ≤ call.after.cursor.position
  inside : call.after.cursor.position ≤ tokens.length
  forward : ∀ expr, call.result = .ok expr →
    call.before.cursor.position < call.after.cursor.position

section Calls

variable {tokens here : List Token} {fuel : Nat} {parser : Parser}

/-- A new parser stands where its cursor does. -/
theorem stands_ofCursor (inside : here <:+ tokens) :
    Parsing.Stands tokens here 0 (ofCursor (.before tokens here)) where
  cursor := rfl
  inside := inside
  depth := rfl
  bounded value member := by
    obtain rfl := List.mem_singleton.mp member
    decide

/-- One call, from any parser that is inside of no level. -/
theorem exists_call (stands : Parsing.Stands tokens here 0 parser)
    (enough : 3 * maxDepth < fuel) :
    ∃ (call : Call) (rest : List Token), call.before = parser ∧
      (Parsing.parse fuel).run.run parser = some (call.result, call.after) ∧
      Parsing.Stands tokens rest 0 call.after ∧
        call.Independent fuel tokens := by
  obtain ⟨result, rest, parsed, leads, behind, shorter⟩ :=
    Parsing.parse_leadsTo stands.inside enough
  obtain ⟨after, ran, there⟩ := leads parser stands
  obtain ⟨last, fresh, alsoThere⟩ := leads _ (stands_ofCursor stands.inside)
  have bounded := behind.length_le
  refine ⟨⟨parser, result, after⟩, rest, rfl, ran, there, ?_⟩
  exact {
    fresh := ⟨last, by rw [stands.cursor]; exact fresh, alsoThere.cursor.trans there.cursor.symm⟩
    parses := by rw [stands.cursor, there.cursor, parsed]
    restored := there.depth
    bounded := there.bounded
    unchanged := by rw [there.cursor, Cursor.before]
    ordered := by
      rw [stands.cursor, there.cursor]
      exact Nat.sub_le_sub_left bounded _
    inside := by
      rw [there.cursor]
      exact Nat.sub_le _ _
    forward := by
      intro expr found
      have further : rest.length < here.length :=
        Nat.lt_of_le_of_ne bounded fun same => shorter expr found (behind.eq_of_length same)
      have among := stands.inside.length_le
      rw [stands.cursor, there.cursor]
      simp only [Cursor.before]
      omega }

/-- One call after the other, from any parser that is inside of no level. -/
theorem exists_calls (count : Nat) (stands : Parsing.Stands tokens here 0 parser)
    (enough : 3 * maxDepth < fuel) :
    ∃ made last, calls fuel count parser = some made ∧ made.length = count ∧
      made.map Call.before ++ [last] = parser :: made.map Call.after ∧
      parser.cursor.parseMany count = (made.map Call.result, last.cursor) ∧
      ∀ call ∈ made, call.Independent fuel tokens := by
  induction count generalizing here parser with
  | zero => exact ⟨[], parser, rfl, rfl, rfl, rfl, List.forall_mem_nil _⟩
  | succ count ih =>
      obtain ⟨call, rest, rfl, ran, there, independent⟩ := exists_call stands enough
      obtain ⟨made, last, further, length, linked, results, each⟩ := ih there
      refine ⟨call :: made, last, ?_, ?_, ?_, ?_, List.forall_mem_cons.mpr ⟨independent, each⟩⟩
      · simp [calls, ran, further]
      · rw [List.length_cons, length]
      · rw [List.map_cons, List.cons_append, linked, List.map_cons]
      · rw [Cursor.parseMany, independent.parses]
        simp only [results, List.map_cons]

end Calls

/-- **A parser can be used again after anything.** Over any tokens and from any place, a
parser answers any number of calls, each one made on the parser that the one before has left.
Their results and the last place are those of as many separate cursors, and each call does
what it would do on a new parser. -/
theorem calls_independent (tokens : List Token) (start count fuel : Nat)
    (enough : 3 * maxDepth < fuel) :
    let first : Parser := .ofCursor ((Cursor.ofTokens tokens).setPosition start)
    ∃ (made : List Call) (last : Parser), calls fuel count first = some made ∧ made.length = count ∧
      made.map Call.before ++ [last] = first :: made.map Call.after ∧
      first.cursor.parseMany count = (made.map Call.result, last.cursor) ∧
      ∀ call ∈ made, call.Independent fuel tokens := by
  have place : (Cursor.ofTokens tokens).setPosition start = .before tokens (tokens.drop start) := by
    simp only [Cursor.ofTokens, Cursor.setPosition, Cursor.before, List.length_drop,
      Cursor.mk.injEq, true_and]
    omega
  intro first
  have stands : Parsing.Stands tokens (tokens.drop start) 0 first := by
    simp only [first, place]
    exact stands_ofCursor (List.drop_suffix start tokens)
  exact exists_calls count stands enough

/-- A sum of 130 ones nests too deeply. The next call goes on where that was seen, and finds
the sum of the last three; the one behind it is at the end of the tokens. -/
theorem calls_independent_behind_deep_sum :
    let one : Token := ⟨.integer, "1", .start⟩
    let plus : Token := ⟨.symbol, "+", ⟨1, 1, 2⟩⟩
    let tokens := (List.replicate 129 [one, plus]).flatten ++ [one]
    let pair : Expr := .operation .add plus (.value one) (.value one)
    3 * maxDepth < 385 ∧ ∃ (made : List Call) (last : Parser),
      calls 385 3 (ofCursor ((Cursor.ofTokens tokens).setPosition 0)) = some made ∧
      made.map Call.result = [.error (.grammatical .tooDeep (some one)),
        .ok (.operation .add plus (.value one) pair), .error (.grammatical .emptyInput none)] ∧
      last.cursor.position = 259 ∧ ∀ call ∈ made, call.Independent 385 tokens := by
  intro one plus tokens pair
  have enough : 3 * maxDepth < 385 := by decide
  obtain ⟨made, last, called, -, -, parsed, each⟩ := calls_independent tokens 0 3 385 enough
  have many : ((Cursor.ofTokens tokens).setPosition 0).parseMany 3 =
      ([.error (.grammatical .tooDeep (some one)),
        .ok (.operation .add plus (.value one) pair), .error (.grammatical .emptyInput none)],
        ⟨tokens, 259⟩) := by
    decide +kernel
  rw [ofCursor, many, Prod.mk.injEq] at parsed
  obtain ⟨results, place⟩ := parsed
  refine ⟨enough, made, last, called, results.symm, ?_, each⟩
  rw [← place]

end Parser

end DataFormula
