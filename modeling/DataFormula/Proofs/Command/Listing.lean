import DataFormula.Command.Render
import DataFormula.Proofs.Expr.JsonReading
import Mathlib.Data.List.Basic

/-!
# The listing of tokens

A token is listed with its place, its class and its data, and a line feed stands between two
entries. The data is written as it is. Only that of a string literal may hold line feeds, and
each of them breaks the entry it stands in. So a listing has as many lines as there are tokens
and line feeds in their data. Without the latter, each token has a line to itself, and the
listing tells all of the tokens but their offsets (`Command.listing_lines`).
-/

namespace DataFormula

theorem Token.IsLexical.kind_of_newline {token : Token} (isLexical : token.IsLexical)
    (member : '\n' ∈ token.data.toList) : token.kind = .string := by
  have flat := isLexical.newline_not_mem
  cases kind : token.kind with
  | string => rfl
  | _ =>
      rw [Token.text, kind] at flat
      exact absurd (by simpa using member) flat

namespace Command

/-! ## Lines -/

/-- The lines of a text, between which its line feeds stand. -/
def lines (text : String) : List String := (text.split '\n').toList.map (·.copy)

theorem lines_eq (text : String) : lines text = (text.toList.splitOn '\n').map .ofList :=
  String.toList_split_char

theorem lines_append (first second : String) :
    lines (first ++ "\n" ++ second) = lines first ++ lines second := by
  have split : (first ++ "\n" ++ second).toList = first.toList ++ '\n' :: second.toList := by simp
  simp only [lines_eq, split, List.splitOn_append_cons_self, List.map_append]

theorem lines_of_newline_not_mem {text : String} (flat : '\n' ∉ text.toList) :
    lines text = [text] := by
  rw [lines_eq, List.splitOn_eq_singleton flat, List.map_singleton, String.ofList_toList]

theorem length_lines (text : String) : (lines text).length = text.toList.count '\n' + 1 := by
  rw [lines_eq, List.length_map]
  induction text.toList with
  | nil => rfl
  | cons c rest ih =>
      rw [List.splitOn_cons_eq_if_modifyHead, List.count_cons]
      split
      · rw [List.length_cons, ih]
      · rw [List.length_modifyHead, ih, Nat.add_zero]

/-! ## Entries -/

section Entry

variable {token other : Token}

theorem not_mem_repr {c : Char} (noDigit : c.isDigit = false) (n : Nat) :
    c ∉ n.repr.toList := by
  intro member
  rw [Nat.toList_repr] at member
  rw [Nat.isDigit_of_mem_toDigits (by decide) (by decide) member] at noDigit
  cases noDigit

theorem toList_renderToken (token : Token) :
    (renderToken token).toList = token.position.line.repr.toList ++ ':' ::
      (token.position.column.repr.toList ++ ' ' ::
        (token.kind.name.toList ++ ' ' :: token.data.toList)) := by
  simp [renderToken, Position.text]

/-- The line feeds of an entry are those of the data. -/
theorem count_renderToken (token : Token) :
    (renderToken token).toList.count '\n' = token.data.toList.count '\n' := by
  have noNumber (n : Nat) : n.repr.toList.count '\n' = 0 :=
    List.count_eq_zero.mpr (not_mem_repr rfl n)
  have noName : token.kind.name.toList.count '\n' = 0 := by cases token.kind <;> decide
  rw [toList_renderToken, List.count_append, noNumber, List.count_cons_of_ne (by decide),
    List.count_append, noNumber, List.count_cons_of_ne (by decide), List.count_append, noName,
    List.count_cons_of_ne (by decide), Nat.zero_add, Nat.zero_add, Nat.zero_add]

/-- Texts that are cut at the first separator have the same parts. -/
theorem append_cons_inj_of_not_mem {c : Char} {front other back back' : List Char}
    (free : c ∉ front) (free' : c ∉ other) (same : front ++ c :: back = other ++ c :: back') :
    front = other ∧ back = back' := by
  have parts := congrArg (List.splitOn c) same
  rw [List.splitOn_append_cons_self_of_not_mem free,
    List.splitOn_append_cons_self_of_not_mem free'] at parts
  obtain rfl := (List.cons.inj parts).1
  exact ⟨rfl, (List.cons_inj_right c).mp (List.append_cancel_left same)⟩

/-- An entry tells all of a token but its offset. -/
theorem renderToken_inj (same : renderToken token = renderToken other) :
    token.withoutOffset = other.withoutOffset := by
  have oneWord (kind : TokenKind) : ' ' ∉ kind.name.toList := by cases kind <;> decide
  have texts := congrArg String.toList same
  rw [toList_renderToken, toList_renderToken] at texts
  obtain ⟨lines, texts⟩ :=
    append_cons_inj_of_not_mem (not_mem_repr rfl _) (not_mem_repr rfl _) texts
  obtain ⟨columns, texts⟩ :=
    append_cons_inj_of_not_mem (not_mem_repr rfl _) (not_mem_repr rfl _) texts
  obtain ⟨names, data⟩ := append_cons_inj_of_not_mem (oneWord _) (oneWord _) texts
  simp only [Token.withoutOffset, TokenKind.name_inj (String.toList_inj.mp names),
    String.toList_inj.mp data, Token.eq_of_repr_eq (String.toList_inj.mp lines),
    Token.eq_of_repr_eq (String.toList_inj.mp columns)]

end Entry

/-! ## Listings -/

section Listing

variable {tokens others : List Token}

/-- The lines of a listing are those of its entries. -/
theorem lines_renderTokens (nonempty : tokens ≠ []) :
    lines (renderTokens tokens) = tokens.flatMap fun token => lines (renderToken token) := by
  induction tokens with
  | nil => exact absurd rfl nonempty
  | cons token tokens ih =>
      cases tokens with
      | nil => simp [renderTokens]
      | cons next tokens =>
          have joined : renderTokens (token :: next :: tokens) =
              renderToken token ++ "\n" ++ renderTokens (next :: tokens) :=
            String.intercalate_cons_cons
          rw [joined, lines_append, ih (List.cons_ne_nil _ _)]
          rfl

/-- The number of line feeds in the data of tokens. -/
def lineFeeds (tokens : List Token) : Nat :=
  (tokens.flatMap (·.data.toList)).count '\n'

theorem length_lines_renderTokens (nonempty : tokens ≠ []) :
    (lines (renderTokens tokens)).length = tokens.length + lineFeeds tokens := by
  rw [lines_renderTokens nonempty]
  clear nonempty
  induction tokens with
  | nil => rfl
  | cons token tokens ih =>
      rw [List.flatMap_cons, List.length_append, ih, length_lines, count_renderToken, lineFeeds,
        lineFeeds, List.flatMap_cons, List.count_append, List.length_cons]
      omega

/-- No string literal holds a line feed. -/
def IsFlat (tokens : List Token) : Prop :=
  ∀ token ∈ tokens, token.kind = .string → '\n' ∉ token.data.toList

instance (tokens : List Token) : Decidable (IsFlat tokens) :=
  inferInstanceAs (Decidable (∀ token ∈ tokens, _ → _))

theorem IsFlat.newline_not_mem (flat : IsFlat tokens)
    (lexical : ∀ token ∈ tokens, token.IsLexical) : ∀ token ∈ tokens, '\n' ∉ token.data.toList :=
  fun token member newline =>
    flat token member ((lexical token member).kind_of_newline newline) newline

theorem lineFeeds_eq_zero_iff (lexical : ∀ token ∈ tokens, token.IsLexical) :
    lineFeeds tokens = 0 ↔ IsFlat tokens := by
  rw [lineFeeds, List.count_eq_zero, List.mem_flatMap]
  constructor
  · intro none token member _ newline
    exact none ⟨token, member, newline⟩
  · rintro flat ⟨token, member, newline⟩
    exact flat.newline_not_mem lexical token member newline

/-- Without line feeds in the data, each line of a listing is an entry. -/
theorem lines_of_isFlat (nonempty : tokens ≠ []) (lexical : ∀ token ∈ tokens, token.IsLexical)
    (flat : IsFlat tokens) : lines (renderTokens tokens) = tokens.map renderToken := by
  have entries : ∀ token ∈ tokens, lines (renderToken token) = [renderToken token] := by
    intro token member
    have none := List.count_eq_zero.mpr (flat.newline_not_mem lexical token member)
    rw [← count_renderToken] at none
    exact lines_of_newline_not_mem (List.count_eq_zero.mp none)
  rw [lines_renderTokens nonempty, List.flatMap_congr entries, List.map_eq_flatMap]

theorem renderTokens_ne_empty (nonempty : tokens ≠ []) : renderTokens tokens ≠ "" := by
  obtain ⟨token, tokens, rfl⟩ := List.exists_cons_of_ne_nil nonempty
  have colon : ':' ∈ (renderTokens (token :: tokens)).toList := by
    cases tokens <;> simp [renderTokens, toList_renderToken]
  intro empty
  rw [empty] at colon
  cases colon

/-- Tokens without line feeds in their data are alike if they are listed alike. -/
theorem renderTokens_inj (lexical : ∀ token ∈ tokens, token.IsLexical)
    (lexical' : ∀ token ∈ others, token.IsLexical) (flat : IsFlat tokens) (flat' : IsFlat others)
    (same : renderTokens tokens = renderTokens others) :
    tokens.map Token.withoutOffset = others.map Token.withoutOffset := by
  by_cases nonempty : tokens = []
  · subst nonempty
    by_cases nonempty' : others = []
    · rw [nonempty']
    · exact absurd same.symm (renderTokens_ne_empty nonempty')
  by_cases nonempty' : others = []
  · subst nonempty'
    exact absurd same (renderTokens_ne_empty nonempty)
  have entries := congrArg lines same
  rw [lines_of_isFlat nonempty lexical flat, lines_of_isFlat nonempty' lexical' flat'] at entries
  clear * - entries
  induction tokens generalizing others with
  | nil => rw [List.map_eq_nil_iff.mp entries.symm]
  | cons token tokens ih =>
      obtain ⟨other, others, rfl, first, rest⟩ := List.map_eq_cons_iff.mp entries.symm
      rw [List.map_cons, List.map_cons, renderToken_inj first, ih rest.symm]

theorem renderTokens_map_withoutOffset (tokens : List Token) :
    renderTokens (tokens.map Token.withoutOffset) = renderTokens tokens := by
  rw [renderTokens, List.map_map]
  rfl

end Listing

/-- **What a listing tells.** The listing of the tokens of a source has as many lines as there
are tokens and line feeds in their data, hence one for each token exactly if no string literal
holds a line feed. Then its lines are the entries of the tokens. Two sources without such
literals have the same listing exactly if their tokens are the same but for the offsets. -/
theorem listing_lines {first second : String} {tokens others : List Token}
    (given : tokenize first = .ok tokens) (given' : tokenize second = .ok others) :
    (tokens ≠ [] →
      (lines (renderTokens tokens)).length = tokens.length + lineFeeds tokens ∧
      ((lines (renderTokens tokens)).length = tokens.length ↔ IsFlat tokens) ∧
      (IsFlat tokens → lines (renderTokens tokens) = tokens.map renderToken)) ∧
    (IsFlat tokens → IsFlat others →
      (renderTokens tokens = renderTokens others ↔
        tokens.map Token.withoutOffset = others.map Token.withoutOffset)) := by
  have lexical := (Lexer.tiles_of_tokenize given).spelled.isLexical
  have lexical' := (Lexer.tiles_of_tokenize given').spelled.isLexical
  refine ⟨fun nonempty => ⟨length_lines_renderTokens nonempty, ?_, ?_⟩, fun flat flat' => ⟨?_, ?_⟩⟩
  · rw [length_lines_renderTokens nonempty, ← lineFeeds_eq_zero_iff lexical]
    omega
  · exact lines_of_isFlat nonempty lexical
  · exact renderTokens_inj lexical lexical' flat flat'
  · intro same
    rw [← renderTokens_map_withoutOffset, same, renderTokens_map_withoutOffset]

/-- A comment above a formula does not show. -/
theorem listing_lines_of_comment :
    let tokens : List Token := [⟨.string, "a b", ⟨2, 2, 1⟩⟩, ⟨.symbol, "+", ⟨7, 2, 6⟩⟩]
    let others : List Token := [⟨.string, "a b", ⟨1, 2, 1⟩⟩, ⟨.symbol, "+", ⟨6, 2, 6⟩⟩]
    tokenize "#\n'a b'+" = .ok tokens ∧ tokenize "\n\"a b\"+" = .ok others ∧
      lines (renderTokens tokens) = ["2:1 String a b", "2:6 Symbol +"] ∧
      renderTokens tokens = renderTokens others := by
  intro tokens others
  have given : tokenize "#\n'a b'+" = .ok tokens := by decide +kernel
  have given' : tokenize "\n\"a b\"+" = .ok others := by decide +kernel
  have flat : IsFlat tokens := by decide +kernel
  have flat' : IsFlat others := by decide +kernel
  obtain ⟨listed, told⟩ := listing_lines given given'
  exact ⟨given, given', (listed (List.cons_ne_nil _ _)).2.2 flat, (told flat flat').mpr rfl⟩

/-- A string literal that holds a line feed breaks its entry, and the rest of it may look
like the entry of another token. -/
theorem listing_of_line_feed :
    let literal : List Token := [⟨.string, "x\n2:3 Integer 5", ⟨0, 1, 1⟩⟩]
    let others : List Token := [⟨.string, "x", ⟨0, 1, 1⟩⟩, ⟨.integer, "5", ⟨6, 2, 3⟩⟩]
    tokenize "'x\n2:3 Integer 5'" = .ok literal ∧ tokenize "'x'\n  5" = .ok others ∧
      lines (renderTokens literal) = ["1:1 String x", "2:3 Integer 5"] ∧
      renderTokens literal = renderTokens others := by
  intro literal others
  refine ⟨by decide +kernel, by decide +kernel, ?_, by decide +kernel⟩
  rw [lines_eq]
  decide +kernel

end Command

end DataFormula
