import DataFormula.Proofs.Expr.Readability
import DataFormula.Proofs.Json.Compact
import DataFormula.Proofs.Json.Printed

/-!
# Expressions read from JSON texts

The JSON text of an expression is read as a document that describes its tree: every node has
its kind, its token and its operands, and nothing that it has not (`Expr.Describes`). Which
operator a node has is not written, nor whether it is a negation: the token tells the one and
the operands the other, if the tree was parsed (`Expr.Describes.mapTokens_eq`).
-/

namespace DataFormula

open Json

/-- What a document says of a token: all but its offset. -/
structure Token.Describes (document : Document) (token : Token) : Prop where
  nodup : document.names.Nodup
  kind : document.get? "kind" = some (.string token.kind.name)
  data : document.get? "data" = some (.string token.data)
  line : document.get? "line" = some (.number token.position.line.repr)
  column : document.get? "column" = some (.number token.position.column.repr)
  value : document.get? "value" = token.value?.map .number

/-- A document tells of each node its kind, its token and its operands. -/
inductive Expr.Describes : Document → Expr → Prop where
  | node {document inner : Document} {expr : Expr} (nodup : document.names.Nodup)
      (kind : document.get? "kind" = some (.string expr.kind.name))
      (found : document.get? "token" = some inner) (token : Token.Describes inner expr.token)
      (left : Option.Rel Expr.Describes (document.get? "left") expr.left?)
      (right : Option.Rel Expr.Describes (document.get? "right") expr.right?) :
      Expr.Describes document expr

/-! ## What is written -/

theorem Token.describes_toJson (token : Token) : token.Describes token.toJson.document := by
  have nodup : token.toJson.document.names.Nodup := by
    unfold toJson
    cases token.value? <;> simp [Members.optional, document, Members.documents, Document.names]
  refine ⟨nodup, rfl, rfl, rfl, rfl, ?_⟩
  unfold toJson
  cases token.value? <;> rfl

theorem Token.hasNumerals_toJson (token : Token) : token.toJson.HasNumerals := by
  have column := isNumeral_repr token.position.column
  have line := isNumeral_repr token.position.line
  unfold toJson
  cases value : token.value? with
  | none => exact ⟨column, trivial, trivial, line, trivial⟩
  | some numeral => exact ⟨column, trivial, trivial, line, isNumeral_value? value, trivial⟩

namespace Expr

section Node

variable {kind : ExprKind} {token : Token} {left right : Option Json}

theorem hasNumerals_nodeJson (onLeft : ∀ json ∈ left, json.HasNumerals)
    (onRight : ∀ json ∈ right, json.HasNumerals) :
    (nodeJson kind token left right).HasNumerals := by
  have inner := token.hasNumerals_toJson
  cases left with
  | none =>
      cases right with
      | none => exact ⟨trivial, inner, trivial⟩
      | some right => exact ⟨trivial, onRight right rfl, inner, trivial⟩
  | some left =>
      cases right with
      | none => exact ⟨trivial, onLeft left rfl, inner, trivial⟩
      | some right => exact ⟨trivial, onLeft left rfl, onRight right rfl, inner, trivial⟩

theorem names_nodeJson : (nodeJson kind token left right).document.names.Nodup := by
  cases left <;> cases right <;>
    simp [nodeJson, Members.optional, document, Members.documents, Document.names]

theorem kind_nodeJson :
    (nodeJson kind token left right).document.get? "kind" = some (.string kind.name) := rfl

theorem token_nodeJson :
    (nodeJson kind token left right).document.get? "token" = some token.toJson.document := by
  cases left <;> cases right <;> rfl

theorem left_nodeJson :
    (nodeJson kind token left right).document.get? "left" = left.map Json.document := by
  cases left <;> cases right <;> rfl

theorem right_nodeJson :
    (nodeJson kind token left right).document.get? "right" = right.map Json.document := by
  cases left <;> cases right <;> rfl

end Node

theorem toJson_eq_nodeJson (expr : Expr) :
    expr.toJson =
      nodeJson expr.kind expr.token (expr.left?.map toJson) (expr.right?.map toJson) := by
  cases expr <;> rfl

theorem hasNumerals_toJson (expr : Expr) : expr.toJson.HasNumerals := by
  have operand {json : Json} (hasNumerals : json.HasNumerals) :
      ∀ other ∈ some json, other.HasNumerals := fun _ same => Option.some.inj same ▸ hasNumerals
  induction expr with
  | value | identifier | reference => exact hasNumerals_nodeJson nofun nofun
  | operation operator token left right leftIH rightIH =>
      exact hasNumerals_nodeJson (operand leftIH) (operand rightIH)
  | negate token _ ih => exact hasNumerals_nodeJson nofun (operand ih)
  | access token object key objectIH keyIH =>
      exact hasNumerals_nodeJson (operand objectIH) (operand keyIH)

/-- A node is described if its operands are. -/
theorem describes_of_operands {expr : Expr}
    (left : Option.Rel Describes (expr.left?.map (·.toJson.document)) expr.left?)
    (right : Option.Rel Describes (expr.right?.map (·.toJson.document)) expr.right?) :
    Describes expr.toJson.document expr := by
  rw [toJson_eq_nodeJson]
  refine .node names_nodeJson kind_nodeJson token_nodeJson expr.token.describes_toJson ?_ ?_
  · rw [left_nodeJson, Option.map_map]
    exact left
  · rw [right_nodeJson, Option.map_map]
    exact right

theorem describes_toJson (expr : Expr) : Describes expr.toJson.document expr := by
  induction expr with
  | value | identifier | reference => exact describes_of_operands .none .none
  | operation operator token left right leftIH rightIH =>
      exact describes_of_operands (.some leftIH) (.some rightIH)
  | negate token operand ih => exact describes_of_operands .none (.some ih)
  | access token object key objectIH keyIH =>
      exact describes_of_operands (.some objectIH) (.some keyIH)

end Expr

/-! ## What a document tells -/

theorem TokenKind.name_inj {kind other : TokenKind} (same : kind.name = other.name) :
    kind = other := by
  have named := kind.ofName?_name
  rw [same, ofName?_name] at named
  exact (Option.some.inj named).symm

namespace Token

/-- The token as it would be without characters before it. -/
def withoutOffset (token : Token) : Token :=
  { token with position := { token.position with offset := 0 } }

theorem relabels_withoutOffset : Relabels withoutOffset :=
  relabels_of_same (fun _ => rfl) fun _ => rfl

theorem eq_of_repr_eq {m n : Nat} (same : m.repr = n.repr) : m = n := by
  have digits := congrArg String.toList same
  rw [Nat.toList_repr, Nat.toList_repr] at digits
  rw [← Nat.ofDigitChars_ten_toDigits (n := m), digits, Nat.ofDigitChars_ten_toDigits]

theorem Describes.withoutOffset_eq {document : Document} {token other : Token}
    (describes : token.Describes document) (describes' : other.Describes document) :
    token.withoutOffset = other.withoutOffset := by
  have kinds := describes.kind.symm.trans describes'.kind
  have data := describes.data.symm.trans describes'.data
  have lines := describes.line.symm.trans describes'.line
  have columns := describes.column.symm.trans describes'.column
  simp only [Option.some.injEq, Document.string.injEq, Document.number.injEq]
    at kinds data lines columns
  simp only [withoutOffset, TokenKind.name_inj kinds, data, eq_of_repr_eq lines,
    eq_of_repr_eq columns]

end Token

theorem ExprKind.name_inj {kind other : ExprKind} (same : kind.name = other.name) :
    kind = other := by
  have listed (kind : ExprKind) : kind ∈ all := by cases kind <;> decide
  have each : ∀ kind ∈ all, ∀ other ∈ all, kind.name = other.name → kind = other := by decide
  exact each kind (listed kind) other (listed other) same

namespace Expr

/-- Every operation has the operator that its token spells. -/
def SpellsOperators : Expr → Prop
  | value _ | identifier _ | reference _ => True
  | operation operator token left right =>
    Operator.ofToken? token = some operator ∧ left.SpellsOperators ∧ right.SpellsOperators
  | negate _ operand => operand.SpellsOperators
  | access _ inner key => inner.SpellsOperators ∧ key.SpellsOperators

theorem Readable.spellsOperators {expr : Expr} (readable : expr.Readable) :
    expr.SpellsOperators := by
  induction readable with
  | leaf leaf => cases leaf <;> trivial
  | operation spelled _ _ leftIH rightIH => exact ⟨spelled, leftIH, rightIH⟩
  | negate _ _ ih => exact ih
  | access _ _ found _ ih =>
      have single := (Grammar.key?_eq_some_iff.mp found).1
      cases single <;> exact ⟨ih, trivial⟩

section Unique

variable {document : Document} {expr other : Expr} {operands : Option Document}

/-- One document tells of nodes that are alike, and of their operands. -/
theorem Describes.agree (describes : Describes document expr)
    (describes' : Describes document other) :
    expr.kind = other.kind ∧ expr.token.withoutOffset = other.token.withoutOffset ∧
      (∃ left, Option.Rel Describes left expr.left? ∧ Option.Rel Describes left other.left?) ∧
      ∃ right, Option.Rel Describes right expr.right? ∧
        Option.Rel Describes right other.right? := by
  cases describes with
  | node _ kind found token left right =>
      cases describes' with
      | node _ kind' found' token' left' right' =>
          obtain ⟨⟩ := found.symm.trans found'
          have names := kind.symm.trans kind'
          rw [Option.some.injEq, Document.string.injEq] at names
          exact ⟨ExprKind.name_inj names, token.withoutOffset_eq token', ⟨_, left, left'⟩, _,
            right, right'⟩

theorem exists_operand {expr other : Expr} (rel : Option.Rel Describes operands (some expr))
    (rel' : Option.Rel Describes operands (some other)) :
    ∃ document, Describes document expr ∧ Describes document other := by
  cases rel with
  | some describes =>
      cases rel' with
      | some describes' => exact ⟨_, describes, describes'⟩

theorem not_rel_none {expr : Expr} (rel : Option.Rel Describes operands (some expr)) :
    ¬ Option.Rel Describes operands (none : Option Expr) := by
  cases rel
  nofun

/-- **A document tells the tree.** Two trees that one document describes are the same but for
the offsets of their tokens, if the tokens of their operations spell the operators. -/
theorem Describes.mapTokens_eq (describes : Describes document expr)
    (describes' : Describes document other) (spells : expr.SpellsOperators)
    (spells' : other.SpellsOperators) :
    expr.mapTokens Token.withoutOffset = other.mapTokens Token.withoutOffset := by
  -- Operations and negations are of one kind, but only operations have a left operand.
  induction expr generalizing document other with
  | value token =>
      obtain ⟨kinds, tokens, -⟩ := describes.agree describes'
      cases other with
      | value => exact congrArg value tokens
      | _ => cases kinds
  | identifier token =>
      obtain ⟨kinds, tokens, -⟩ := describes.agree describes'
      cases other with
      | identifier => exact congrArg identifier tokens
      | _ => cases kinds
  | reference token =>
      obtain ⟨kinds, tokens, -⟩ := describes.agree describes'
      cases other with
      | reference => exact congrArg reference tokens
      | _ => cases kinds
  | operation operator token left right leftIH rightIH =>
      obtain ⟨kinds, tokens, ⟨_, onLeft, onLeft'⟩, _, onRight, onRight'⟩ :=
        describes.agree describes'
      cases other with
      | operation operator' token' left' right' =>
          obtain ⟨_, left, left'⟩ := exists_operand onLeft onLeft'
          obtain ⟨_, right, right'⟩ := exists_operand onRight onRight'
          have operators : some operator = some operator' := by
            rw [← spells.1, ← spells'.1,
              ← Grammar.ofToken?_relabel Token.relabels_withoutOffset token,
              ← Grammar.ofToken?_relabel Token.relabels_withoutOffset token']
            exact congrArg Operator.ofToken? tokens
          have lefts := leftIH left left' spells.2.1 spells'.2.1
          have rights := rightIH right right' spells.2.2 spells'.2.2
          have tokens : token.withoutOffset = token'.withoutOffset := tokens
          simp only [mapTokens, lefts, rights, tokens, Option.some.inj operators]
      | negate => exact absurd onLeft' (not_rel_none onLeft)
      | _ => cases kinds
  | negate sign operand ih =>
      obtain ⟨kinds, tokens, ⟨_, onLeft, onLeft'⟩, _, onRight, onRight'⟩ :=
        describes.agree describes'
      cases other with
      | operation => exact absurd onLeft (not_rel_none onLeft')
      | negate sign' operand' =>
          obtain ⟨_, inside, inside'⟩ := exists_operand onRight onRight'
          have operands := ih inside inside' spells spells'
          have tokens : sign.withoutOffset = sign'.withoutOffset := tokens
          simp only [mapTokens, operands, tokens]
      | _ => cases kinds
  | access point object key objectIH keyIH =>
      obtain ⟨kinds, tokens, ⟨_, onLeft, onLeft'⟩, _, onRight, onRight'⟩ :=
        describes.agree describes'
      cases other with
      | access point' object' key' =>
          obtain ⟨_, object, object'⟩ := exists_operand onLeft onLeft'
          obtain ⟨_, key, key'⟩ := exists_operand onRight onRight'
          have objects := objectIH object object' spells.1 spells'.1
          have keys := keyIH key key' spells.2 spells'.2
          have tokens : point.withoutOffset = point'.withoutOffset := tokens
          simp only [mapTokens, objects, keys, tokens]
      | _ => cases kinds

end Unique

theorem nodeJson_withoutOffset (kind : ExprKind) (token : Token) (left right : Option Json) :
    nodeJson kind token.withoutOffset left right = nodeJson kind token left right := rfl

/-- Nothing is written of offsets. -/
theorem toJson_mapTokens_withoutOffset (expr : Expr) :
    (expr.mapTokens Token.withoutOffset).toJson = expr.toJson := by
  induction expr with
  | value | identifier | reference => exact nodeJson_withoutOffset ..
  | operation operator token left right leftIH rightIH =>
      simp only [mapTokens, toJson, leftIH, rightIH, nodeJson_withoutOffset]
  | negate sign operand ih => simp only [mapTokens, toJson, ih, nodeJson_withoutOffset]
  | access point object key objectIH keyIH =>
      simp only [mapTokens, toJson, objectIH, keyIH, nodeJson_withoutOffset]

/-- **JSON texts are read back.** The text of a tree has no control characters, and what is
read from it describes the tree. So the texts of two parsed trees are the same exactly if the
trees differ in nothing but the offsets of their tokens. -/
theorem json_describes (expr : Expr) :
    (∃ document, IsText expr.json document ∧ read? expr.json = some document ∧
      Describes document expr) ∧
    Visible expr.json.toList ∧
    ∀ {source source' : String} {expr' : Expr}, ofSource source = .ok expr →
      ofSource source' = .ok expr' → (expr.json = expr'.json ↔
        expr.mapTokens Token.withoutOffset = expr'.mapTokens Token.withoutOffset) := by
  have isText (expr : Expr) : IsText expr.json expr.toJson.document :=
    isText_compact expr.hasNumerals_toJson
  refine ⟨⟨_, isText expr, read?_eq_some_iff.mpr (isText expr), expr.describes_toJson⟩, ?_, ?_⟩
  · rw [json, compact, String.toList_ofList]
    exact visible_compactChars _ expr.hasNumerals_toJson
  · intro source source' expr' parsed parsed'
    refine ⟨fun same => ?_, fun same => ?_⟩
    · have document := (isText expr).unique (same ▸ isText expr')
      have describes := expr.describes_toJson
      rw [document] at describes
      exact describes.mapTokens_eq expr'.describes_toJson
        (readable_of_ofSource parsed).spellsOperators (readable_of_ofSource parsed').spellsOperators
    · rw [json, ← toJson_mapTokens_withoutOffset, same, toJson_mapTokens_withoutOffset, json]

/-- How long the lines above a formula are cannot be read from its text. -/
theorem json_describes_of_blank_line :
    let expr : Expr := .negate ⟨.symbol, "-", ⟨1, 2, 1⟩⟩ (.value ⟨.float, "1.50", ⟨2, 2, 2⟩⟩)
    let expr' : Expr := .negate ⟨.symbol, "-", ⟨3, 2, 1⟩⟩ (.value ⟨.float, "1.50", ⟨4, 2, 2⟩⟩)
    ofSource "\n-1.50" = .ok expr ∧ ofSource " #\n-1.50" = .ok expr' ∧ expr ≠ expr' ∧
      Visible expr.json.toList ∧ expr.json = expr'.json := by
  intro expr expr'
  have parsed : ofSource "\n-1.50" = .ok expr := by
    decide +kernel
  have parsed' : ofSource " #\n-1.50" = .ok expr' := by
    decide +kernel
  obtain ⟨-, visible, same⟩ := json_describes expr
  exact ⟨parsed, parsed', by decide, visible, (same parsed parsed').mpr rfl⟩

end Expr

end DataFormula
