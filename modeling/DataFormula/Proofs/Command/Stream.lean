import DataFormula.Proofs.Command.Verdict
import DataFormula.Proofs.Grammar.Relabelling
import DataFormula.Proofs.Lexer.Lines
import Mathlib.Control.Monad.Basic

/-!
# Streams of formulas

Valid texts may stand below each other, as long as only the first one starts with a sign.
The tokens of the whole are then those of the parts, moved by what stands before each
(`Command.tokenize_lines_eq`). A cursor over them parses the formulas one by one, since
each ends where an operand of the next one starts (`Cursor.parseMany_formulas`).
-/

namespace DataFormula

namespace Position

/-- The same place, once a text that ends with a line feed stands before its text. -/
def moved (before : List Char) (position : Position) : Position :=
  ⟨position.offset + before.length, position.line + before.count '\n', position.column⟩

theorem moved_nil : moved [] = id := rfl

theorem moved_append (first second : List Char) :
    moved (first ++ second) = moved first ∘ moved second := by
  funext position
  simp only [moved, Function.comp_apply, List.length_append, List.count_append, mk.injEq, and_true]
  omega

theorem below_eq_moved (above : List Char) : below above = moved (above ++ ['\n']) := by
  funext position
  simp [below, moved]

end Position

namespace Token

/-- The same token, once a text that ends with a line feed stands before its text. -/
def moved (before : List Char) (token : Token) : Token :=
  { token with position := token.position.moved before }

theorem moved_nil : moved [] = id := rfl

theorem moved_append (first second : List Char) :
    moved (first ++ second) = moved first ∘ moved second := by
  funext token
  simp only [moved, Function.comp_apply, Position.moved_append]

theorem below_eq_moved (above : List Char) : below above = moved (above ++ ['\n']) := by
  funext token
  simp only [below, moved, Position.below_eq_moved]

theorem relabels_moved (before : List Char) : Relabels (moved before) :=
  relabels_of_same (fun _ => rfl) (fun _ => rfl)

end Token

theorem Expr.mapTokens_id (expr : Expr) : expr.mapTokens id = expr := by
  induction expr with
  | value | identifier | reference => rfl
  | operation operator token left right leftIH rightIH => rw [mapTokens, leftIH, rightIH, id]
  | negate token operand ih => rw [mapTokens, ih, id]
  | access token object key objectIH keyIH => rw [mapTokens, objectIH, keyIH, id]

namespace Grammar

variable {levels : Nat} {expr : Expr}

theorem expression_tokens_eq_found_iff :
    expression levels expr.tokens = .found expr [] ↔ IsFormula expr ∧ expr.Nests levels := by
  rw [expression_eq_found_iff, List.append_nil]
  refine ⟨fun described => ⟨described.1, described.2.1⟩, fun described => ?_⟩
  exact ⟨described.1, described.2, rfl, nofun, nofun⟩

/-- A formula stays one, as deep as it was, with its tokens relabelled. -/
theorem IsFormula.relabel {f : Token → Token} (relabels : Token.Relabels f)
    (formula : IsFormula expr) (nests : expr.Nests levels) :
    IsFormula (expr.mapTokens f) ∧ (expr.mapTokens f).Nests levels := by
  have found := expression_tokens_eq_found_iff.mpr ⟨formula, nests⟩
  rw [← expression_tokens_eq_found_iff, Expr.tokens_mapTokens, expression_relabel relabels, found]
  rfl

/-- A formula without a sign starts with an operand. -/
theorem IsFormula.startsFactor_head (formula : IsFormula expr)
    (unsigned : ∀ first ∈ expr.tokens.head?, first.isSymbol "-" = false) :
    ∃ first others, expr.tokens = first :: others ∧ startsFactor first = true := by
  rcases isFormula_iff.mp formula with isSum | ⟨sign, operand, rfl, signed, -⟩
  · exact isSum.head
  · rw [unsigned sign rfl] at signed
    cases signed

theorem IsFormula.endsOperand (formula : IsFormula expr) (operand : Bool) :
    Grammar.endsOperand operand expr.tokens = true := by
  induction formula generalizing operand with
  | term term => exact term.no_additive.2 operand
  | sum _ _ _ ih =>
      rw [Expr.tokens, Grammar.endsOperand, List.foldl_append, List.foldl_cons]
      exact ih _
  | negatedTerm _ term =>
      rw [Expr.tokens, Grammar.endsOperand, List.foldl_cons]
      exact term.no_additive.2 _
  | negatedSum _ _ _ _ ih =>
      rw [Expr.tokens, Expr.tokens, Grammar.endsOperand, List.foldl_cons, List.foldl_append,
        List.foldl_cons]
      exact ih _

theorem IsFormula.pointAfter_eq (formula : IsFormula expr) :
    Lexer.pointAfter false expr.tokens = false := by
  have ends := formula.endsOperand false
  rcases List.eq_nil_or_concat expr.tokens with empty | ⟨front, last, concat⟩
  · exact absurd empty expr.tokens_ne_nil
  · rw [List.concat_eq_append] at concat
    rw [concat, endsOperand_concat] at ends
    rw [concat, Lexer.pointAfter, List.foldl_append, List.foldl_cons, List.foldl_nil]
    have kind : (last.kind == .symbol) = false := by simpa using ends
    rw [Token.isSymbol, kind, Bool.false_and]

/-- An operand goes on with no formula. -/
theorem stops_of_startsFactor {rest : List Token}
    (starts : ∀ next ∈ rest.head?, startsFactor next = true) : Stops expr rest := by
  refine ⟨fun next member point => ?_, fun next member => ?_⟩
  · have := starts next member
    rw [startsFactor_of_isSymbol point] at this
    cases this
  · exact ofToken?_eq_none_of_kind (kind_ne_symbol_of_startsFactor (starts next member))

end Grammar

namespace Cursor

open Grammar

theorem parse_at_end (tokens : List Token) :
    Cursor.parse ⟨tokens, tokens.length⟩ =
      (.error (.grammatical .emptyInput none), ⟨tokens, tokens.length⟩) := by
  apply parse_of_absent
  rw [remaining, List.drop_length]
  rfl

/-- The tokens of formulas, all but the first without a sign, start with an operand
behind the first formula. -/
theorem startsFactor_head_of_formulas {exprs : List Expr}
    (each : ∀ expr ∈ exprs, IsFormula expr)
    (unsigned : ∀ expr ∈ exprs, ∀ first ∈ expr.tokens.head?, first.isSymbol "-" = false) :
    ∀ next ∈ (exprs.flatMap Expr.tokens).head?, startsFactor next = true := by
  intro next member
  cases exprs with
  | nil => cases member
  | cons expr others =>
      obtain ⟨first, further, tokens, starts⟩ :=
        (each expr List.mem_cons_self).startsFactor_head (unsigned expr List.mem_cons_self)
      rw [List.flatMap_cons, tokens] at member
      cases member
      exact starts

/-- **One formula after the other.** A cursor before the tokens of formulas, all but the
first of which start with no sign, parses them one by one and moves to the end. -/
theorem parseMany_formulas {tokens : List Token} {start : Nat} {exprs : List Expr}
    (inside : start ≤ tokens.length) (split : tokens.drop start = exprs.flatMap Expr.tokens)
    (each : ∀ expr ∈ exprs, IsFormula expr ∧ expr.Nests maxDepth)
    (unsigned : ∀ expr ∈ exprs.tail, ∀ first ∈ expr.tokens.head?, first.isSymbol "-" = false) :
    parseMany exprs.length ⟨tokens, start⟩ = (exprs.map .ok, ⟨tokens, tokens.length⟩) := by
  induction exprs generalizing start with
  | nil =>
      have reached : tokens.length ≤ start := List.drop_eq_nil_iff.mp split
      rw [Nat.le_antisymm inside reached]
      rfl
  | cons expr others ih =>
      obtain ⟨⟨formula, nests⟩, each⟩ := List.forall_mem_cons.mp each
      rw [List.tail_cons] at unsigned
      rw [List.flatMap_cons] at split
      have starts := startsFactor_head_of_formulas (fun expr member => (each expr member).1)
        unsigned
      have found : expression maxDepth (remaining ⟨tokens, start⟩) =
          .found expr (others.flatMap Expr.tokens) :=
        expression_eq_found_iff.mpr ⟨formula, nests, split, stops_of_startsFactor starts⟩
      have parsed := parse_of_found found
      rw [advanceTo_eq split] at parsed
      have further := ih (le_length_of_split split expr.tokens_ne_nil) (drop_of_split split) each
        fun expr member => unsigned expr (List.mem_of_mem_tail member)
      simp only [List.length_cons, parseMany, parsed, further, List.map_cons]

end Cursor

namespace Command

open Grammar

/-- What stands before one of several texts that stand below each other. -/
def textBefore (sources : List String) (place : Nat) : List Char :=
  (sources.take place).flatMap fun source => source.toList ++ ['\n']

/-- The formulas of texts, moved to where the texts stand below each other. -/
def movedExprs (lines : List (String × Expr)) : List Expr :=
  lines.mapIdx fun place line =>
    line.2.mapTokens (Token.moved (textBefore (lines.map Prod.fst) place))

theorem movedExprs_cons (line : String × Expr) (lines : List (String × Expr)) :
    movedExprs (line :: lines) =
      line.2 :: (movedExprs lines).map (Expr.mapTokens (Token.below line.1.toList)) := by
  have first : line.2.mapTokens (Token.moved []) = line.2 := by
    rw [Token.moved_nil, Expr.mapTokens_id]
  have further (place : Nat) (other : String × Expr) :
      other.2.mapTokens (Token.moved (textBefore ((line :: lines).map Prod.fst) (place + 1))) =
        (other.2.mapTokens (Token.moved (textBefore (lines.map Prod.fst) place))).mapTokens
          (Token.below line.1.toList) := by
    rw [Expr.mapTokens_mapTokens, Token.below_eq_moved, ← Token.moved_append]
    rfl
  calc movedExprs (line :: lines)
      = line.2.mapTokens (Token.moved []) :: lines.mapIdx (fun place other =>
          other.2.mapTokens
            (Token.moved (textBefore ((line :: lines).map Prod.fst) (place + 1)))) :=
        List.mapIdx_cons
    _ = line.2 :: (movedExprs lines).map (Expr.mapTokens (Token.below line.1.toList)) := by
        rw [first]
        congr 1
        apply List.ext_getElem
        · simp only [movedExprs, List.length_mapIdx, List.length_map]
        · intro place _ _
          simp only [movedExprs, List.getElem_mapIdx, List.getElem_map, further]

theorem isFormula_of_valid {source : String} {expr : Expr}
    (valid : check (some source) = .ok (.valid expr)) :
    IsFormula expr ∧ expr.Nests maxDepth ∧ tokenize source = .ok expr.tokens := by
  obtain ⟨given, found, -⟩ := exists_found_of_check valid
  obtain ⟨formula, nests, -⟩ := expression_eq_found_iff.mp found
  simp only [Verdict.expr, Verdict.rest, List.append_nil] at formula nests given
  exact ⟨formula, nests, given⟩

/-- Valid texts that stand below each other have the tokens of their formulas. -/
theorem tokenize_lines_eq {lines : List (String × Expr)} (inhabited : lines ≠ [])
    (valid : ∀ line ∈ lines, check (some line.1) = .ok (.valid line.2)) :
    tokenize ("\n".intercalate (lines.map Prod.fst)) =
      .ok ((movedExprs lines).flatMap Expr.tokens) := by
  induction lines with
  | nil => exact absurd rfl inhabited
  | cons line lines ih =>
      obtain ⟨here, valid⟩ := List.forall_mem_cons.mp valid
      obtain ⟨formula, -, given⟩ := isFormula_of_valid here
      rw [movedExprs_cons, List.flatMap_cons]
      cases lines with
      | nil => simpa [movedExprs] using given
      | cons second others =>
          have below := ih (List.cons_ne_nil _ _) valid
          have joined := tokenize_lines given ("\n".intercalate ((second :: others).map Prod.fst))
          rw [formula.pointAfter_eq] at joined
          have free (source : String) :
              (⟨source.toList, .start, false⟩ : Lexer).tokens = tokenize source := rfl
          rw [free, below] at joined
          rw [List.map_cons, List.map_cons, String.intercalate_cons_cons, ← List.map_cons, joined]
          refine congrArg (fun below => Except.ok (line.2.tokens ++ below)) ?_
          simp only [List.flatMap_map, Expr.tokens_mapTokens, List.map_flatMap]

/-- **Streams.** Valid texts below each other, of which only the first one may start with
a sign, split into tokens. A cursor over them parses as many formulas as there are texts:
that of each text, its tokens moved by what stands before it. It is at the end then, where
there is nothing more to parse. -/
theorem parseMany_lines (lines : List (String × Expr)) (inhabited : lines ≠ [])
    (valid : ∀ line ∈ lines, check (some line.1) = .ok (.valid line.2))
    (unsigned : ∀ line ∈ lines.tail, ∀ tokens, tokenize line.1 = .ok tokens →
      ∀ first ∈ tokens.head?, first.isSymbol "-" = false) :
    ∃ tokens, tokenize ("\n".intercalate (lines.map Prod.fst)) = .ok tokens ∧
      (Cursor.ofTokens tokens).parseMany lines.length =
        ((movedExprs lines).map .ok, ⟨tokens, tokens.length⟩) ∧
      Cursor.parse ⟨tokens, tokens.length⟩ =
        (.error (.grammatical .emptyInput none), ⟨tokens, tokens.length⟩) ∧
      GrammarCause.emptyInput.message = "cannot parse an empty input" := by
  have each (expr : Expr) (member : expr ∈ movedExprs lines) :
      IsFormula expr ∧ expr.Nests maxDepth := by
    obtain ⟨place, within, rfl⟩ := List.mem_mapIdx.mp member
    obtain ⟨formula, nests, -⟩ := isFormula_of_valid (valid _ (List.getElem_mem within))
    exact formula.relabel (Token.relabels_moved _) nests
  have heads (expr : Expr) (member : expr ∈ (movedExprs lines).tail) :
      ∀ first ∈ expr.tokens.head?, first.isSymbol "-" = false := by
    cases lines with
    | nil => cases member
    | cons line others =>
        rw [movedExprs, List.mapIdx_cons, List.tail_cons] at member
        obtain ⟨place, within, rfl⟩ := List.mem_mapIdx.mp member
        have later := List.getElem_mem within
        obtain ⟨-, -, given⟩ := isFormula_of_valid (valid _ (List.mem_cons_of_mem _ later))
        intro first head
        rw [Expr.tokens_mapTokens, List.head?_map] at head
        obtain ⟨token, start, rfl⟩ := Option.map_eq_some_iff.mp head
        rw [isSymbol_relabel (Token.relabels_moved _)]
        exact unsigned _ later _ given token start
  have parsed := Cursor.parseMany_formulas (Nat.zero_le _) rfl each heads
  have count : (movedExprs lines).length = lines.length := List.length_mapIdx
  rw [count] at parsed
  exact ⟨_, tokenize_lines_eq inhabited valid, parsed, Cursor.parse_at_end _, rfl⟩

/-- A comment ends with its line, and a number below a key is no key. -/
theorem parseMany_lines_number_below_key :
    let name : Token := ⟨.reference, "a", ⟨0, 1, 1⟩⟩
    let point : Token := ⟨.symbol, ".", ⟨2, 1, 3⟩⟩
    let key : Token := ⟨.integer, "1", ⟨3, 1, 4⟩⟩
    let access : Expr := .access point (.reference name) (.value key)
    let lines := [("$a.1#-", access), ("2.5", .value ⟨.float, "2.5", ⟨0, 1, 1⟩⟩)]
    (lines ≠ [] ∧ (∀ line ∈ lines, check (some line.1) = .ok (.valid line.2)) ∧
      ∀ line ∈ lines.tail, ∀ tokens, tokenize line.1 = .ok tokens →
        ∀ first ∈ tokens.head?, first.isSymbol "-" = false) ∧
    ∃ tokens, tokenize ("\n".intercalate (lines.map Prod.fst)) = .ok tokens ∧
      (Cursor.ofTokens tokens).parseMany 2 =
        ([.ok access, .ok (.value ⟨.float, "2.5", ⟨7, 2, 1⟩⟩)], ⟨tokens, tokens.length⟩) := by
  intro name point key access lines
  have above : check (some "$a.1#-") =
      .ok (.valid (.access ⟨.symbol, ".", ⟨2, 1, 3⟩⟩ (.reference ⟨.reference, "a", ⟨0, 1, 1⟩⟩)
        (.value ⟨.integer, "1", ⟨3, 1, 4⟩⟩))) := by decide +kernel
  have below : check (some "2.5") = .ok (.valid (.value ⟨.float, "2.5", ⟨0, 1, 1⟩⟩)) := by
    decide +kernel
  have given : tokenize "2.5" = .ok [⟨.float, "2.5", ⟨0, 1, 1⟩⟩] := by decide +kernel
  have valid : ∀ line ∈ lines, check (some line.1) = .ok (.valid line.2) :=
    List.forall_mem_cons.mpr ⟨above, List.forall_mem_singleton.mpr below⟩
  have unsigned : ∀ line ∈ lines.tail, ∀ tokens, tokenize line.1 = .ok tokens →
      ∀ first ∈ tokens.head?, first.isSymbol "-" = false := by
    intro line member tokens spelled first head
    rw [List.mem_singleton.mp member, given] at spelled
    cases spelled
    cases head
    rfl
  refine ⟨⟨List.cons_ne_nil _ _, valid, unsigned⟩, ?_⟩
  obtain ⟨tokens, joined, parsed, -⟩ :=
    parseMany_lines lines (List.cons_ne_nil _ _) valid unsigned
  have moved : movedExprs lines = [access, .value ⟨.float, "2.5", ⟨7, 2, 1⟩⟩] := by
    rw [movedExprs_cons, movedExprs_cons, movedExprs, List.mapIdx_nil]
    decide +kernel
  rw [moved] at parsed
  exact ⟨tokens, joined, parsed⟩

end Command

end DataFormula
