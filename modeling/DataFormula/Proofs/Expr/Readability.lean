import DataFormula.Proofs.Command.Verdict
import DataFormula.Proofs.Grammar.Relabelling
import DataFormula.Proofs.Lexer.Reprint
import Mathlib.Data.Bool.AllAny

/-!
# Texts of expressions

The text of a parsed expression stands on one line and tells everything of the tree but the
places of its tokens. Texts are read from left to right: what is printed for a token tells
where it ends if no name and no number goes on with it (`Token.IsLexical.append_inj`), and
inside the parentheses of a text every part is followed by a blank or by the closing one. So
a text tells where it ends, whatever stands behind it (`Expr.Readable.append_inj`).
-/

namespace DataFormula

namespace Lexeme

open Text

section Unique

variable {key : Bool} {kind kind' : TokenKind}
  {data data' lexeme lexeme' rest rest' more : List Char}

/-- What is spelled at the start of a text is known from the text. -/
theorem Spells.unique (spells : Spells key kind data lexeme rest)
    (spells' : Spells key kind' data' lexeme' rest') (same : lexeme ++ rest = lexeme' ++ rest') :
    kind = kind' ∧ data = data' ∧ rest = rest' := by
  obtain ⟨c, text, starts, reading⟩ := spells.read_eq
  obtain ⟨c', text', starts', reading'⟩ := spells'.read_eq
  obtain ⟨rfl, rfl⟩ := List.cons.inj (starts.symm.trans (same.trans starts'))
  rw [reading, Reading.lexeme.injEq] at reading'
  obtain ⟨rfl, rfl, length⟩ := reading'
  exact ⟨rfl, rfl, (List.append_inj same length).2⟩

/-- Where nothing goes on with a lexeme, it is the same in front of a point or not. -/
theorem Spells.of_breaks (spells : Spells key kind data lexeme rest) (breaks : Breaks rest) :
    Spells false kind data lexeme rest := by
  cases spells with
  | symbol member => exact .symbol member
  | identifier isName => exact .identifier isName
  | namedReference isName => exact .namedReference isName
  | numberedReference isNumeral => exact .numberedReference isNumeral
  | integer isNumeral =>
      apply Spells.integer isNumeral
      rintro - digit further rfl
      exact absurd rfl (breaks '.' rfl).2.2
  | float noKey isWhole isFraction => exact .float rfl isWhole isFraction
  | string isQuote writes => exact .string isQuote writes

/-- Only a string starts with a quote, and only a symbol is a parenthesis. -/
theorem Spells.head_printed (spells : Spells key kind data lexeme rest)
    (notSymbol : kind ≠ .symbol) :
    ∃ c others, printed kind data = c :: others ∧ c ≠ '(' ∧ (c = '"' → kind = .string) := by
  have nameStart {c : Char} (start : isNameStart c = true) : c ≠ '(' ∧ c ≠ '"' := by
    refine ⟨?_, ?_⟩ <;> rintro rfl <;> exact absurd start (by decide +kernel)
  have digitStart {c : Char} (digit : c.isDigit = true) : c ≠ '(' ∧ c ≠ '"' := by
    refine ⟨?_, ?_⟩ <;> rintro rfl <;> exact absurd digit (by decide)
  cases spells with
  | symbol => exact absurd rfl notSymbol
  | identifier isName =>
      obtain ⟨c, others, rfl, start⟩ := isName.exists_head
      exact ⟨c, others, rfl, (nameStart start).1, fun mark => absurd mark (nameStart start).2⟩
  | namedReference | numberedReference => exact ⟨'$', _, rfl, by decide, by decide⟩
  | integer isNumeral =>
      obtain ⟨c, others, rfl, digit⟩ := isNumeral.exists_head
      exact ⟨c, others, rfl, (digitStart digit).1, fun mark => absurd mark (digitStart digit).2⟩
  | float _ isWhole =>
      obtain ⟨c, others, rfl, digit⟩ := isWhole.exists_head
      exact ⟨c, _, rfl, (digitStart digit).1, fun mark => absurd mark (digitStart digit).2⟩
  | string => exact ⟨'"', _, rfl, by decide, fun _ => rfl⟩

theorem Spells.newline_not_mem (spells : Spells key kind data lexeme rest) :
    '\n' ∉ printed kind data := by
  have noName {name behind : List Char} (isName : IsName name behind) : '\n' ∉ name := by
    intro member
    have part := isName.2.all '\n' member
    rw [isNamePart_newline] at part
    cases part
  have noNumeral {digits behind : List Char} (isNumeral : IsNumeral digits behind) :
      '\n' ∉ digits := fun member => absurd (isNumeral.2.all '\n' member) (by decide)
  cases spells with
  | symbol member =>
      have each : ∀ c ∈ punctuation, '\n' ∉ [c] := List.all_iff_forall_prop.mp (by decide)
      exact each _ member
  | identifier isName => exact noName isName
  | namedReference isName => simp [printed, noName isName]
  | numberedReference isNumeral => simp [printed, noNumeral isNumeral]
  | integer isNumeral => exact noNumeral isNumeral
  | float _ isWhole isFraction => simp [printed, noNumeral isWhole, noNumeral isFraction]
  | string => simpa [printed] using Quoted.newline_not_mem_quoted data

end Unique

end Lexeme

open Lexeme

/-! ## Tokens -/

namespace Token

variable {token other : Token} {rest more : List Char}

/-- Some text spells the token. -/
def IsLexical (token : Token) : Prop :=
  ∃ key lexeme rest, Spells key token.kind token.data.toList lexeme rest

/-- The token as it would be at the start of a text. -/
def unplaced (token : Token) : Token := { token with position := .start }

theorem unplaced_eq_iff : token.unplaced = other.unplaced ↔
    token.kind = other.kind ∧ token.data = other.data := by
  simp [unplaced]

theorem unplaced_eq_of_isSymbol {text : String} (spelled : token.isSymbol text = true)
    (spelled' : other.isSymbol text = true) : token.unplaced = other.unplaced := by
  obtain ⟨kind, data⟩ := Grammar.isSymbol_iff.mp spelled
  obtain ⟨kind', data'⟩ := Grammar.isSymbol_iff.mp spelled'
  exact unplaced_eq_iff.mpr ⟨kind.trans kind'.symm, data.trans data'.symm⟩

theorem unplaced_eq_of_ofToken? {operator : Operator}
    (spelled : Operator.ofToken? token = some operator)
    (spelled' : Operator.ofToken? other = some operator) : token.unplaced = other.unplaced := by
  obtain ⟨kind, data⟩ := Grammar.ofToken?_eq_some_iff.mp spelled
  obtain ⟨kind', data'⟩ := Grammar.ofToken?_eq_some_iff.mp spelled'
  exact unplaced_eq_iff.mpr ⟨kind.trans kind'.symm, data.trans data'.symm⟩

theorem relabels_unplaced : Relabels unplaced := relabels_of_same (fun _ => rfl) fun _ => rfl

theorem IsLexical.newline_not_mem (isLexical : token.IsLexical) : '\n' ∉ token.text.toList := by
  obtain ⟨key, lexeme, rest, spells⟩ := isLexical
  rw [toList_text]
  exact spells.newline_not_mem

theorem IsLexical.ne_parenthesis (isLexical : token.IsLexical) (notSymbol : token.kind ≠ .symbol) :
    token.text.toList ++ rest ≠ '(' :: more := by
  obtain ⟨key, lexeme, behind, spells⟩ := isLexical
  obtain ⟨c, others, head, apart, -⟩ := spells.head_printed notSymbol
  rw [toList_text, head]
  exact fun same => apart (List.cons.inj same).1

/-- A token without quotes is spelled by its own text. -/
theorem IsLexical.spells_text (isLexical : token.IsLexical) (notString : token.kind ≠ .string)
    (breaks : Breaks rest) :
    Spells false token.kind token.data.toList token.text.toList rest := by
  obtain ⟨key, lexeme, behind, spells⟩ := isLexical
  rw [toList_text]
  exact (spells.reprint (fun string => absurd string notString) breaks).of_breaks breaks

/-- Only strings are printed with a quote in front. -/
theorem IsLexical.kind_eq_string_of_text (isLexical : token.IsLexical)
    (notSymbol : token.kind ≠ .symbol) (quoted : token.text.toList ++ rest = '"' :: more) :
    token.kind = .string := by
  obtain ⟨key, lexeme, behind, spells⟩ := isLexical
  obtain ⟨c, others, head, -, isString⟩ := spells.head_printed notSymbol
  rw [toList_text, head] at quoted
  exact isString (List.cons.inj quoted).1

theorem toList_text_of_string (string : token.kind = .string) (rest : List Char) :
    token.text.toList ++ rest =
      '"' :: (token.data.toList.flatMap Text.Quoted.escape ++ '"' :: rest) := by
  simp [toList_text, string, printed]

/-- **Printed tokens are uniquely readable.** -/
theorem IsLexical.append_inj (isLexical : token.IsLexical) (isLexical' : other.IsLexical)
    (notSymbol : token.kind ≠ .symbol) (notSymbol' : other.kind ≠ .symbol)
    (breaks : Breaks rest) (breaks' : Breaks more)
    (same : token.text.toList ++ rest = other.text.toList ++ more) :
    token.unplaced = other.unplaced ∧ rest = more := by
  rw [unplaced_eq_iff]
  by_cases string : token.kind = .string
  · have quoted := toList_text_of_string string rest
    have string' := isLexical'.kind_eq_string_of_text notSymbol' (same.symm.trans quoted)
    have quoted' := toList_text_of_string string' more
    rw [quoted, quoted', List.cons.injEq] at same
    obtain ⟨data, behind⟩ := Text.Quoted.quoted_inj same.2
    exact ⟨⟨string.trans string'.symm, String.toList_inj.mp data⟩, behind⟩
  · have string' : other.kind ≠ .string := fun string' => string
      (isLexical.kind_eq_string_of_text notSymbol (same.trans (toList_text_of_string string' more)))
    obtain ⟨kind, data, behind⟩ :=
      (isLexical.spells_text string breaks).unique (isLexical'.spells_text string' breaks') same
    exact ⟨⟨kind, String.toList_inj.mp data⟩, behind⟩

end Token

theorem Lexer.Spelled.isLexical {key : Bool} {tokens : List Token} (spelled : Spelled key tokens) :
    ∀ token ∈ tokens, token.IsLexical := by
  induction tokens generalizing key with
  | nil => nofun
  | cons token others ih => exact List.forall_mem_cons.mpr ⟨⟨key, spelled.1⟩, ih spelled.2⟩

/-! ## Trees -/

namespace Operator

theorem symbol_append_inj {operator other : Operator} {rest more : List Char}
    (same : operator.symbol.toList ++ ' ' :: rest = other.symbol.toList ++ ' ' :: more) :
    operator = other ∧ rest = more := by
  cases operator <;> cases other <;> simp_all [symbol]

theorem symbol_append_ne_point (operator : Operator) (rest more : List Char) :
    operator.symbol.toList ++ ' ' :: rest ≠ '.' :: ' ' :: more := by
  cases operator <;> simp [symbol]

/-- Only subtraction is written as a sign is. -/
theorem rest_of_symbol_append {operator : Operator} {rest more : List Char}
    (same : operator.symbol.toList ++ ' ' :: rest = '-' :: ' ' :: more) : rest = more :=
  (symbol_append_inj (same.trans (rfl : _ = subtract.symbol.toList ++ ' ' :: more))).2

end Operator

namespace Expr

open Grammar

/-- A literal or a reference, with its token. -/
inductive IsLeafOf (token : Token) : Expr → Prop where
  | value (isLiteral : isLiteral token = true) : IsLeafOf token (.value token)
  | reference (kind : token.kind = .reference) : IsLeafOf token (.reference token)

/-- Trees with tokens that some text spells and that fit their nodes. -/
inductive Readable : Expr → Prop where
  | leaf {token : Token} {expr : Expr} (leaf : IsLeafOf token expr) (isLexical : token.IsLexical) :
      Readable expr
  | operation {operator : Operator} {token : Token} {left right : Expr}
      (spelled : Operator.ofToken? token = some operator) (onLeft : Readable left)
      (onRight : Readable right) : Readable (.operation operator token left right)
  | negate {sign : Token} {operand : Expr} (signed : sign.isSymbol "-" = true)
      (inside : Readable operand) : Readable (.negate sign operand)
  | access {point token : Token} {object key : Expr} (spelled : point.isSymbol "." = true)
      (inside : Readable object) (found : key? token = some key) (isLexical : token.IsLexical) :
      Readable (.access point object key)

section Formula

variable {expr : Expr}

theorem readable_of_isPath (path : IsPath expr)
    (lexical : ∀ token ∈ expr.tokens, token.IsLexical) : expr.Readable := by
  induction path with
  | reference kind => exact .leaf (.reference kind) (lexical _ List.mem_cons_self)
  | @access point object key spelled _ isKey ih =>
      obtain ⟨token, single, -⟩ := isKey.exists_token
      simp only [tokens, single, List.mem_append, List.mem_cons, List.not_mem_nil, or_false]
        at lexical
      exact .access spelled (ih fun token member => lexical token (.inl member))
        (key?_eq_some_iff.mpr ⟨isKey, single⟩) (lexical token (.inr (.inr rfl)))

theorem readable_of_isFactor (factor : IsFactor expr)
    (lexical : ∀ token ∈ expr.tokens, token.IsLexical) : expr.Readable := by
  cases factor with
  | literal isLiteral => exact .leaf (.value isLiteral) (lexical _ List.mem_cons_self)
  | path path => exact readable_of_isPath path lexical

theorem readable_operation {operator : Operator} {token : Token} {left right : Expr}
    (spelled : Operator.ofToken? token = some operator)
    (onLeft : (∀ token ∈ left.tokens, token.IsLexical) → left.Readable)
    (onRight : (∀ token ∈ right.tokens, token.IsLexical) → right.Readable)
    (lexical : ∀ other ∈ (operation operator token left right).tokens, other.IsLexical) :
    (operation operator token left right).Readable := by
  simp only [tokens, List.forall_mem_append, List.forall_mem_cons] at lexical
  exact .operation spelled (onLeft lexical.1) (onRight lexical.2.2)

theorem readable_of_isTerm (term : IsTerm expr)
    (lexical : ∀ token ∈ expr.tokens, token.IsLexical) : expr.Readable := by
  induction term with
  | factor factor => exact readable_of_isFactor factor lexical
  | product spelled factor _ ih =>
      exact readable_operation (multiplicative?_eq_some_iff.mp spelled).1
        (readable_of_isFactor factor) ih lexical

theorem readable_of_isFormula (formula : IsFormula expr)
    (lexical : ∀ token ∈ expr.tokens, token.IsLexical) : expr.Readable := by
  induction formula with
  | term term => exact readable_of_isTerm term lexical
  | sum spelled term _ ih =>
      exact readable_operation (additive?_eq_some_iff.mp spelled).1 (readable_of_isTerm term) ih
        lexical
  | negatedTerm signed term =>
      exact .negate signed (readable_of_isTerm term (List.forall_mem_cons.mp lexical).2)
  | negatedSum signed spelled term _ ih =>
      exact .negate signed (readable_operation (additive?_eq_some_iff.mp spelled).1
        (readable_of_isTerm term) ih (List.forall_mem_cons.mp lexical).2)

/-- Parsed trees can be read. -/
theorem readable_of_ofSource {source : String} (parsed : ofSource source = .ok expr) :
    expr.Readable := by
  rcases Command.check_cases source with ⟨error, -, failed⟩ | ⟨tokens, other, rest, given, found⟩
  · rw [failed] at parsed
    cases parsed
  · rw [(Command.check_of_found given found).2] at parsed
    cases parsed
    obtain ⟨formula, -, split, -⟩ := expression_eq_found_iff.mp found
    rw [split] at given
    exact readable_of_isFormula formula (Lexer.tiles_of_tokenize given).spelled.of_append.isLexical

end Formula

/-! ## Texts -/

section Text

variable {expr other : Expr} {token token' : Token} {rest more : List Char}

theorem IsLeafOf.text_eq (leaf : IsLeafOf token expr) : expr.text = token.text := by
  cases leaf with
  | value isLiteral =>
      unfold Grammar.isLiteral at isLiteral
      unfold text Token.text
      cases kind : token.kind <;> simp_all
  | reference kind => simp [text, Token.text, kind]

theorem IsLeafOf.notSymbol (leaf : IsLeafOf token expr) : token.kind ≠ .symbol := by
  cases leaf with
  | value isLiteral => exact kind_ne_symbol_of_isLiteral isLiteral
  | reference kind => simp [kind]

/-- Leaves of tokens that say the same differ in nothing but their places. -/
theorem IsLeafOf.mapTokens_eq (leaf : IsLeafOf token expr) (leaf' : IsLeafOf token' other)
    (same : token.unplaced = token'.unplaced) :
    expr.mapTokens Token.unplaced = other.mapTokens Token.unplaced := by
  have kinds := (Token.unplaced_eq_iff.mp same).1
  cases leaf with
  | value isLiteral =>
      cases leaf' with
      | value => simp only [mapTokens, same]
      | reference kind' => simp [Grammar.isLiteral, kinds, kind'] at isLiteral
  | reference kind =>
      cases leaf' with
      | value isLiteral' => simp [Grammar.isLiteral, ← kinds, kind] at isLiteral'
      | reference => simp only [mapTokens, same]

theorem text_key {token : Token} {key : Expr} (found : key? token = some key) :
    key.text = token.text := by
  unfold key? at found
  unfold Token.text
  cases kind : token.kind <;> simp only [kind] at found <;> cases found <;> simp [text, kind]

theorem notSymbol_of_key? {token : Token} {key : Expr} (found : key? token = some key) :
    token.kind ≠ .symbol := by
  intro symbol
  simp [key?, symbol] at found

theorem mapTokens_eq_of_key? {key key' : Expr} (found : key? token = some key)
    (found' : key? token' = some key') (same : token.unplaced = token'.unplaced) :
    key.mapTokens Token.unplaced = key'.mapTokens Token.unplaced := by
  have here := key?_relabel Token.relabels_unplaced token
  rw [same, key?_relabel Token.relabels_unplaced, found, found'] at here
  exact (Option.some.inj here).symm

theorem toList_text_operation (operator : Operator) (token : Token) (left right : Expr) :
    (operation operator token left right).text.toList ++ rest =
      '(' :: (operator.symbol.toList ++ ' ' :: (left.text.toList ++
        ' ' :: (right.text.toList ++ ')' :: rest))) := by
  simp [text]

theorem toList_text_negate (sign : Token) (operand : Expr) :
    (negate sign operand).text.toList ++ rest =
      '(' :: '-' :: ' ' :: (operand.text.toList ++ ')' :: rest) := by
  simp [text]

theorem toList_text_access (point : Token) (object key : Expr) :
    (access point object key).text.toList ++ rest =
      '(' :: '.' :: ' ' :: (object.text.toList ++ ' ' :: (key.text.toList ++ ')' :: rest)) := by
  simp [text]

/-- A text does not tell where the tokens of its tree stand. -/
theorem text_mapTokens_unplaced (expr : Expr) :
    (expr.mapTokens Token.unplaced).text = expr.text := by
  induction expr with
  | value | identifier | reference => rfl
  | operation operator token left right leftIH rightIH =>
      simp only [mapTokens, text, leftIH, rightIH]
  | negate sign operand ih => simp only [mapTokens, text, ih]
  | access point object key objectIH keyIH => simp only [mapTokens, text, objectIH, keyIH]

/-- **One line.** No line ends inside a text. -/
theorem Readable.newline_not_mem (readable : expr.Readable) : '\n' ∉ expr.text.toList := by
  induction readable with
  | leaf leaf isLexical =>
      rw [leaf.text_eq]
      exact isLexical.newline_not_mem
  | @operation operator _ _ _ _ _ _ leftIH rightIH =>
      have symbol : '\n' ∉ operator.symbol.toList := by cases operator <;> decide
      simp [text, leftIH, rightIH, symbol]
  | negate _ _ ih => simp [text, ih]
  | access _ _ found isLexical ih => simp [text, ih, text_key found, isLexical.newline_not_mem]

/-- A text in parentheses is that of a node with operands. -/
theorem Readable.parenthesis_cases {inside : List Char} (readable : expr.Readable)
    (same : '(' :: inside = expr.text.toList ++ rest) :
    (∃ operator token left right, expr = .operation operator token left right ∧
      Operator.ofToken? token = some operator ∧ left.Readable ∧ right.Readable ∧
      inside = operator.symbol.toList ++ ' ' :: (left.text.toList ++
        ' ' :: (right.text.toList ++ ')' :: rest))) ∨
    (∃ sign operand, expr = .negate sign operand ∧ sign.isSymbol "-" = true ∧
      operand.Readable ∧ inside = '-' :: ' ' :: (operand.text.toList ++ ')' :: rest)) ∨
    ∃ point token object key, expr = .access point object key ∧ point.isSymbol "." = true ∧
      object.Readable ∧ key? token = some key ∧ token.IsLexical ∧
      inside = '.' :: ' ' :: (object.text.toList ++ ' ' :: (token.text.toList ++ ')' :: rest)) := by
  cases readable with
  | leaf leaf isLexical =>
      rw [leaf.text_eq] at same
      exact absurd same.symm (isLexical.ne_parenthesis leaf.notSymbol)
  | @operation operator token left right spelled onLeft onRight =>
      rw [toList_text_operation] at same
      exact .inl ⟨operator, token, left, right, rfl, spelled, onLeft, onRight,
        (List.cons.inj same).2⟩
  | @negate sign operand signed onOperand =>
      rw [toList_text_negate] at same
      exact .inr (.inl ⟨sign, operand, rfl, signed, onOperand, (List.cons.inj same).2⟩)
  | @access point token object key spelled onObject found isLexical =>
      rw [toList_text_access, text_key found] at same
      exact .inr (.inr ⟨point, token, object, key, rfl, spelled, onObject, found, isLexical,
        (List.cons.inj same).2⟩)

/-- **Texts are uniquely readable.** A text tells where it ends, and its tree up to the
places of the tokens. -/
theorem Readable.append_inj (readable : expr.Readable) (readable' : other.Readable)
    (breaks : Breaks rest) (breaks' : Breaks more)
    (same : expr.text.toList ++ rest = other.text.toList ++ more) :
    expr.mapTokens Token.unplaced = other.mapTokens Token.unplaced ∧ rest = more := by
  have blank (behind : List Char) : Breaks (' ' :: behind) := breaks_cons (by decide) behind
  have close (behind : List Char) : Breaks (')' :: behind) := breaks_cons (by decide) behind
  -- A parenthesis and the character behind it tell the nodes apart, but for a difference and a
  -- negation: there it is what stands behind the first operand.
  induction readable generalizing other rest more with
  | @leaf token _ leaf isLexical =>
      rw [leaf.text_eq] at same
      have apart {behind : List Char} : token.text.toList ++ rest ≠ '(' :: behind :=
        isLexical.ne_parenthesis leaf.notSymbol
      cases readable' with
      | leaf leaf' isLexical' =>
          rw [leaf'.text_eq] at same
          obtain ⟨unplaced, behind⟩ := isLexical.append_inj isLexical' leaf.notSymbol
            leaf'.notSymbol breaks breaks' same
          exact ⟨leaf.mapTokens_eq leaf' unplaced, behind⟩
      | operation => exact absurd (same.trans (toList_text_operation ..)) apart
      | negate => exact absurd (same.trans (toList_text_negate ..)) apart
      | access => exact absurd (same.trans (toList_text_access ..)) apart
  | @operation operator token left right spelled _ _ leftIH rightIH =>
      rw [toList_text_operation] at same
      rcases readable'.parenthesis_cases same with
        ⟨operator', token', left', right', rfl, spelled', onLeft', onRight', inside⟩ |
        ⟨sign, operand, rfl, -, onOperand, inside⟩ |
        ⟨point, name, object, key, -, -, -, -, -, inside⟩
      · obtain ⟨rfl, behind⟩ := Operator.symbol_append_inj inside
        obtain ⟨lefts, inside⟩ := leftIH onLeft' (blank _) (blank _) behind
        obtain ⟨rights, inside⟩ := rightIH onRight' (close _) (close _) (List.cons.inj inside).2
        have unplaced := Token.unplaced_eq_of_ofToken? spelled spelled'
        exact ⟨by simp only [mapTokens, lefts, rights, unplaced], (List.cons.inj inside).2⟩
      · have inside := Operator.rest_of_symbol_append inside
        obtain ⟨-, inside⟩ := leftIH onOperand (blank _) (close _) inside
        exact absurd (List.cons.inj inside).1 (by decide)
      · exact absurd inside (operator.symbol_append_ne_point _ _)
  | @negate sign operand signed _ ih =>
      rw [toList_text_negate] at same
      rcases readable'.parenthesis_cases same with
        ⟨operator', token', left', right', -, -, onLeft', -, inside⟩ |
        ⟨sign', operand', rfl, signed', onOperand', inside⟩ |
        ⟨point, name, object, key, -, -, -, -, -, inside⟩
      · have inside := Operator.rest_of_symbol_append inside.symm
        obtain ⟨-, inside⟩ := ih onLeft' (close _) (blank _) inside.symm
        exact absurd (List.cons.inj inside).1 (by decide)
      · simp only [List.cons.injEq, true_and] at inside
        obtain ⟨operands, inside⟩ := ih onOperand' (close _) (close _) inside
        have unplaced := Token.unplaced_eq_of_isSymbol signed signed'
        exact ⟨by simp only [mapTokens, operands, unplaced], (List.cons.inj inside).2⟩
      · exact absurd (List.cons.inj inside).1 (by decide)
  | @access point token object key spelled _ found isLexical ih =>
      rw [toList_text_access, text_key found] at same
      rcases readable'.parenthesis_cases same with
        ⟨operator, token', left', right', -, -, -, -, inside⟩ | ⟨sign, operand, -, -, -, inside⟩ |
        ⟨point', token', object', key', rfl, spelled', onObject', found', isLexical', inside⟩
      · exact absurd inside.symm (operator.symbol_append_ne_point _ _)
      · exact absurd (List.cons.inj inside).1 (by decide)
      · simp only [List.cons.injEq, true_and] at inside
        obtain ⟨objects, inside⟩ := ih onObject' (blank _) (blank _) inside
        obtain ⟨unplaced, inside⟩ := isLexical.append_inj isLexical' (notSymbol_of_key? found)
          (notSymbol_of_key? found') (close _) (close _) (List.cons.inj inside).2
        have keys := mapTokens_eq_of_key? found found' unplaced
        have points := Token.unplaced_eq_of_isSymbol spelled spelled'
        exact ⟨by simp only [mapTokens, objects, keys, points], (List.cons.inj inside).2⟩

end Text

/-- **Texts of formulas.** The text of a parsed formula stands on one line, and the texts of
two of them are the same exactly if the formulas differ in nothing but the places of their
tokens. -/
theorem text_eq_iff {source source' : String} {expr expr' : Expr}
    (parsed : ofSource source = .ok expr) (parsed' : ofSource source' = .ok expr') :
    '\n' ∉ expr.text.toList ∧
      (expr.text = expr'.text ↔
        expr.mapTokens Token.unplaced = expr'.mapTokens Token.unplaced) := by
  have readable := readable_of_ofSource parsed
  refine ⟨readable.newline_not_mem, fun same => ?_, fun same => ?_⟩
  · have whole := congrArg (·.toList ++ []) same
    exact (readable.append_inj (readable_of_ofSource parsed') breaks_nil breaks_nil whole).1
  · rw [← text_mapTokens_unplaced expr, same, text_mapTokens_unplaced]

/-- A text does not tell how the formula was laid out, and which quotes it had. -/
theorem text_eq_iff_of_layout :
    let expr : Expr := .negate ⟨.symbol, "-", ⟨0, 1, 1⟩⟩
      (.operation .subtract ⟨.symbol, "-", ⟨8, 1, 9⟩⟩
        (.access ⟨.symbol, ".", ⟨3, 1, 4⟩⟩ (.reference ⟨.reference, "a", ⟨1, 1, 2⟩⟩)
          (.identifier ⟨.identifier, "true", ⟨4, 1, 5⟩⟩))
        (.value ⟨.string, "b) 'c", ⟨9, 1, 10⟩⟩))
    let expr' : Expr := .negate ⟨.symbol, "-", ⟨0, 1, 1⟩⟩
      (.operation .subtract ⟨.symbol, "-", ⟨12, 2, 2⟩⟩
        (.access ⟨.symbol, ".", ⟨4, 1, 5⟩⟩ (.reference ⟨.reference, "a", ⟨2, 1, 3⟩⟩)
          (.identifier ⟨.identifier, "true", ⟨6, 1, 7⟩⟩))
        (.value ⟨.string, "b) 'c", ⟨14, 2, 4⟩⟩))
    ofSource "-$a.true-\"b) 'c\"" = .ok expr ∧ ofSource "- $a. true\n - 'b) \\'c'" = .ok expr' ∧
      '\n' ∉ expr.text.toList ∧ expr.text = expr'.text := by
  intro expr expr'
  have parsed : ofSource "-$a.true-\"b) 'c\"" = .ok expr := by
    decide +kernel
  have parsed' : ofSource "- $a. true\n - 'b) \\'c'" = .ok expr' := by
    decide +kernel
  obtain ⟨oneLine, same⟩ := text_eq_iff parsed parsed'
  exact ⟨parsed, parsed', oneLine, same.mpr rfl⟩

end Expr

end DataFormula
