import DataFormula.Proofs.Command.Stream

/-!
# Chains of accessors

A reference may be written with any number of keys behind it, each behind a point and with
no blanks between them. Then every point is a token of its own, whatever digits stand
around it (`Lexer.tiles_keysText`), and no key takes the points behind it for itself. So
the chain nests to the left, key after key, until its points outrun the levels
(`Command.chain_reading`).
-/

namespace DataFormula

open Lexeme

/-! ## Chains as they are written -/

/-- What may stand behind a `$`, and behind a point: a word or digits. -/
inductive Label where
  | word (name : List Char) (isName : IsName name [])
  | number (digits : List Char) (isNumeral : IsNumeral digits [])

/-- The characters of a label. -/
def Label.text : Label → List Char
  | word name _ => name
  | number digits _ => digits

/-- A key as it is written behind a point: a label, or a label behind a `$`. -/
inductive WrittenKey where
  | plain (label : Label)
  | reference (label : Label)

namespace WrittenKey

/-- The characters of a key. -/
def text : WrittenKey → List Char
  | plain label => label.text
  | reference label => '$' :: label.text

/-- The key that is read at a place. -/
def expr (position : Position) : WrittenKey → Expr
  | plain (.word name _) => .identifier ⟨.identifier, .ofList name, position⟩
  | plain (.number digits _) => .value ⟨.integer, .ofList digits, position⟩
  | reference label => .reference ⟨.reference, .ofList label.text, position⟩

end WrittenKey

/-- Keys, each behind a point. -/
def keysText (keys : List WrittenKey) : List Char := keys.flatMap fun key => '.' :: key.text

/-- A reference with keys behind it. -/
def chainText (label : Label) (keys : List WrittenKey) : List Char :=
  '$' :: label.text ++ keysText keys

/-- The accessors that are read behind a text. -/
def accessorsBehind (before : List Char) : List WrittenKey → List (Token × Expr)
  | [] => []
  | key :: keys =>
    (⟨.symbol, ".", .behind before⟩, key.expr (.behind (before ++ ['.']))) ::
      accessorsBehind (before ++ '.' :: key.text) keys

/-- The chain that is read at the start of a text: each key is that of an access to all
that is written before its point. -/
def chainExpr (label : Label) (keys : List WrittenKey) : Expr :=
  Grammar.attach (.reference ⟨.reference, .ofList label.text, .start⟩)
    (accessorsBehind ('$' :: label.text) keys)

/-! ## Chains as they are tokenized -/

section Tokens

variable {rest : List Char}

/-- A text goes on with a point, if at all. -/
def PointNext (rest : List Char) : Prop := ∀ c ∈ rest.head?, c = '.'

theorem pointNext_keysText (keys : List WrittenKey) : PointNext (keysText keys) := by
  intro c head
  cases keys with
  | nil => cases head
  | cons => exact (Option.some.inj head).symm

theorem Lexeme.IsName.of_pointNext {name : List Char} (isName : IsName name [])
    (next : PointNext rest) : IsName name rest := by
  refine ⟨isName.1, isName.2.all, ?_⟩
  intro c head
  rw [next c head]
  decide +kernel

theorem Lexeme.IsNumeral.of_pointNext {digits : List Char} (isNumeral : IsNumeral digits [])
    (next : PointNext rest) : IsNumeral digits rest := by
  refine ⟨isNumeral.1, isNumeral.2.all, ?_⟩
  intro c head
  rw [next c head]
  decide

/-- Behind a `$`, a label is read up to the next point. -/
theorem Label.spells_reference (label : Label) (afterPoint : Bool) (next : PointNext rest) :
    Spells afterPoint .reference label.text ('$' :: label.text) rest := by
  cases label with
  | word name isName => exact .namedReference (isName.of_pointNext next)
  | number digits isNumeral => exact .numberedReference (isNumeral.of_pointNext next)

/-- Behind a point, a key is read up to the next point. It is no number with a point of its
own, since that is not looked for there. -/
theorem WrittenKey.exists_spells (key : WrittenKey) (position : Position)
    (next : PointNext rest) :
    ∃ kind data, Spells true kind data key.text rest ∧
      (key.expr position).tokens = [⟨kind, .ofList data, position⟩] ∧
      kind ≠ .symbol ∧ kind ≠ .float := by
  match key with
  | .plain (.word name isName) =>
      exact ⟨_, _, .identifier (isName.of_pointNext next), rfl, by decide, by decide⟩
  | .plain (.number digits isNumeral) =>
      exact ⟨_, _, .integer (isNumeral.of_pointNext next) nofun, rfl, by decide, by decide⟩
  | .reference label =>
      exact ⟨_, _, label.spells_reference true next, rfl, by decide, by decide⟩

/-- Keys behind points are cut at the points. -/
theorem Lexer.tiles_keysText (before : List Char) (keys : List WrittenKey) :
    Tiles before false (keysText keys) (Grammar.accessorTokens (accessorsBehind before keys)) := by
  induction keys generalizing before with
  | nil => exact .done .nil
  | cons key keys ih =>
      obtain ⟨kind, data, spells, tokens, notSymbol, -⟩ :=
        key.exists_spells (.behind (before ++ ['.'])) (pointNext_keysText keys)
      have split : keysText (key :: keys) = [] ++ (['.'] ++ ([] ++ (key.text ++ keysText keys))) :=
        rfl
      have further := ih (before ++ '.' :: key.text)
      rw [split, accessorsBehind, Grammar.accessorTokens_cons, tokens]
      apply Tiles.token .nil (.symbol (by decide)) (by rw [List.append_nil])
      apply Tiles.token .nil spells (by simp only [List.append_nil])
      have noPoint : Token.isSymbol ⟨kind, .ofList data, .behind (before ++ ['.'])⟩ "." = false := by
        simp [Token.isSymbol, notSymbol]
      rw [noPoint]
      simpa using further

/-- A chain is cut into the tokens of its tree. -/
theorem tokenize_chainText (label : Label) (keys : List WrittenKey) :
    tokenize (.ofList (chainText label keys)) = .ok (chainExpr label keys).tokens := by
  apply tokenize_eq_ok_iff.mpr
  rw [String.toList_ofList, chainExpr, Grammar.tokens_attach]
  exact .token .nil (label.spells_reference false (pointNext_keysText keys)) rfl
    (Lexer.tiles_keysText _ keys)

/-- A chain has one token for its reference and two for each key. -/
theorem length_tokens_chainExpr (label : Label) (keys : List WrittenKey) :
    (chainExpr label keys).tokens.length = 2 * keys.length + 1 := by
  have behind (before : List Char) :
      (Grammar.accessorTokens (accessorsBehind before keys)).length = 2 * keys.length := by
    induction keys generalizing before with
    | nil => rfl
    | cons key keys ih =>
        obtain ⟨_, _, -, tokens, -⟩ :=
          key.exists_spells (.behind (before ++ ['.'])) (pointNext_keysText [])
        rw [accessorsBehind, Grammar.accessorTokens_cons, tokens, List.length_append, ih]
        simp only [List.length_cons, List.length_nil]
        omega
  rw [chainExpr, Grammar.tokens_attach, List.length_append, behind]
  exact Nat.add_comm _ _

/-- No token of a chain is a number with a point in it. -/
theorem kind_ne_float_of_mem_chainExpr (label : Label) (keys : List WrittenKey) :
    ∀ token ∈ (chainExpr label keys).tokens, token.kind ≠ .float := by
  have behind (before : List Char) :
      ∀ token ∈ Grammar.accessorTokens (accessorsBehind before keys), token.kind ≠ .float := by
    induction keys generalizing before with
    | nil => nofun
    | cons key keys ih =>
        obtain ⟨kind, _, -, tokens, -, noFloat⟩ :=
          key.exists_spells (.behind (before ++ ['.'])) (pointNext_keysText [])
        rw [accessorsBehind, Grammar.accessorTokens_cons, tokens]
        exact List.forall_mem_cons.mpr ⟨nofun, List.forall_mem_cons.mpr ⟨noFloat, ih _⟩⟩
  rw [chainExpr, Grammar.tokens_attach]
  exact List.forall_mem_cons.mpr ⟨nofun, behind _⟩

end Tokens

/-! ## Chains as they are parsed -/

theorem WrittenKey.isKey (key : WrittenKey) (position : Position) :
    Grammar.IsKey (key.expr position) := by
  match key with
  | .plain (.word ..) => exact .identifier rfl
  | .plain (.number ..) => exact .value (.inl rfl)
  | .reference _ => exact .reference rfl

theorem isAccessor_of_mem (before : List Char) (keys : List WrittenKey) :
    ∀ accessor ∈ accessorsBehind before keys, Grammar.IsAccessor accessor := by
  induction keys generalizing before with
  | nil => nofun
  | cons key keys ih => exact List.forall_mem_cons.mpr ⟨⟨rfl, key.isKey _⟩, ih _⟩

theorem length_accessorsBehind (before : List Char) (keys : List WrittenKey) :
    (accessorsBehind before keys).length = keys.length := by
  induction keys generalizing before with
  | nil => rfl
  | cons key keys ih => rw [accessorsBehind, List.length_cons, ih, List.length_cons]

theorem accessorsBehind_append (before : List Char) (front back : List WrittenKey) :
    accessorsBehind before (front ++ back) =
      accessorsBehind before front ++ accessorsBehind (before ++ keysText front) back := by
  induction front generalizing before with
  | nil => rw [keysText, List.flatMap_nil, List.append_nil]; rfl
  | cons key front ih =>
      rw [List.cons_append, accessorsBehind, ih, accessorsBehind, List.cons_append]
      simp [keysText]

namespace Grammar

/-- The first point for which there is no level is refused. -/
theorem accessors_tooDeep {accessors : List (Token × Expr)} {object : Expr} {point : Token}
    {rest : List Token} (valid : ∀ accessor ∈ accessors, IsAccessor accessor)
    (spelled : point.isSymbol "." = true) :
    Grammar.accessors accessors.length object (accessorTokens accessors ++ point :: rest) =
      .failed (.grammatical .tooDeep (some point)) rest := by
  induction accessors generalizing object with
  | nil => simp only [accessorTokens_nil, List.nil_append, List.length_nil, Grammar.accessors,
      spelled, if_true]
  | cons accessor accessors ih =>
      obtain ⟨⟨pointed, isKey⟩, valid⟩ := List.forall_mem_cons.mp valid
      obtain ⟨token, keyTokens, -⟩ := isKey.exists_token
      have found := key?_eq_some_iff.mpr ⟨isKey, keyTokens⟩
      simp only [accessorTokens_cons, keyTokens, List.cons_append, List.nil_append,
        List.length_cons, Grammar.accessors, pointed, if_true, found]
      exact ih valid

/-- An expression that starts with a reference fails where that does. -/
theorem expression_failed_of_reference {levels : Nat} {token : Token} {tokens rest : List Token}
    {error : SyntaxError} (kind : token.kind = .reference)
    (failed : Grammar.accessors levels (.reference token) tokens = .failed error rest) :
    expression (levels + 2) (token :: tokens) = .failed error rest := by
  have factor : Grammar.factor levels (token :: tokens) = .failed error rest :=
    factor_eq_failed_iff.mpr ⟨token, tokens, rfl, kind, failed⟩
  have term : Grammar.term (levels + 1) (token :: tokens) = .failed error rest :=
    chain_of_failed factor
  have sum : Grammar.sum (levels + 1) (token :: tokens) = .failed error rest :=
    chain_of_failed (demand_eq_failed_iff.mpr (.inl term))
  have unsigned : token.isSymbol "-" = false := by simp [Token.isSymbol, kind]
  exact (expression_of_no_sign unsigned).trans sum

end Grammar

namespace Command

open Grammar

/-- A chain of no more keys than a path has levels is found as a whole. -/
theorem expression_of_chain {label : Label} {keys : List WrittenKey} (fits : keys.length ≤ 126) :
    expression maxDepth (chainExpr label keys).tokens = .found (chainExpr label keys) [] := by
  have path : IsPath (chainExpr label keys) :=
    (IsPath.reference rfl).attach (isAccessor_of_mem _ keys)
  have factor : IsFactor (chainExpr label keys) := .path path
  have shallow : (chainExpr label keys).accessorCount ≤ 126 := by
    simpa [chainExpr, accessorCount_attach, Expr.accessorCount, length_accessorsBehind] using fits
  have nests : (chainExpr label keys).Nests maxDepth :=
    (IsTerm.factor factor).nests_succ_iff.mpr (factor.termNests_succ_iff.mpr shallow)
  exact expression_tokens_eq_found_iff.mpr ⟨.term (.factor factor), nests⟩

/-- Behind as many keys as a path has levels, one more point is refused. -/
theorem expression_of_long_chain {label : Label} {front back : List WrittenKey} {key : WrittenKey}
    (count : front.length = 126) :
    ∃ rest, expression maxDepth (chainExpr label (front ++ key :: back)).tokens =
      .failed (.grammatical .tooDeep
        (some ⟨.symbol, ".", .behind (chainText label front)⟩)) rest := by
  let reference : Token := ⟨.reference, .ofList label.text, .start⟩
  let point : Token := ⟨.symbol, ".", .behind (chainText label front)⟩
  let before := accessorsBehind ('$' :: label.text) front
  obtain ⟨rest, tokens⟩ : ∃ rest, (chainExpr label (front ++ key :: back)).tokens =
      reference :: (accessorTokens before ++ point :: rest) := by
    rw [chainExpr, tokens_attach, accessorsBehind_append, accessorsBehind, accessorTokens,
      List.flatMap_append]
    exact ⟨_, rfl⟩
  have refused : Grammar.accessors before.length (.reference reference)
      (accessorTokens before ++ point :: rest) =
        .failed (.grammatical .tooDeep (some point)) rest :=
    accessors_tooDeep (isAccessor_of_mem _ front) rfl
  rw [length_accessorsBehind, count] at refused
  rw [tokens]
  exact ⟨rest, expression_failed_of_reference rfl refused⟩

/-- **Chains of accessors.** A reference with keys behind it, written without blanks, is cut
into as many tokens as it has names and points, none of them a number with a point in it.
With up to 126 keys it is valid as a whole and its tree nests to the left. With more, the
point of the 127th is refused. -/
theorem chain_reading (label : Label) (keys : List WrittenKey) :
    let source := String.ofList (chainText label keys)
    (tokenize source = .ok (chainExpr label keys).tokens ∧
      (chainExpr label keys).tokens.length = 2 * keys.length + 1 ∧
      ∀ token ∈ (chainExpr label keys).tokens, token.kind ≠ .float) ∧
    (keys.length ≤ 126 → Expr.ofSource source = .ok (chainExpr label keys) ∧
      check (some source) = .ok (.valid (chainExpr label keys))) ∧
    (127 ≤ keys.length → ∃ error, Expr.ofSource source = .error error ∧
      error.message = "expression nests too deeply" ∧
      error.token? = some ⟨.symbol, ".", .behind (chainText label (keys.take 126))⟩) := by
  intro source
  have given := tokenize_chainText label keys
  refine ⟨⟨given, length_tokens_chainExpr label keys, kind_ne_float_of_mem_chainExpr label keys⟩,
    ?_, ?_⟩
  · intro fits
    obtain ⟨checked, parsed⟩ := check_of_found given (expression_of_chain fits)
    exact ⟨parsed, checked⟩
  · intro long
    have count : (keys.take 126).length = 126 := by
      rw [List.length_take]
      omega
    have split : keys.take 126 ++ keys[126] :: keys.drop 127 = keys := by
      rw [← List.drop_eq_getElem_cons, List.take_append_drop]
    obtain ⟨rest, failed⟩ := expression_of_long_chain count
    rw [split] at failed
    have parsed := (check_of_failed given (Cursor.parse_of_failed failed)).2
    exact ⟨_, parsed, rfl, rfl⟩

/-- A number with 127 numbers behind it, which are keys and never fractions. -/
theorem chain_reading_of_numbers :
    let nine : Label := .number ['9'] (isNumeral_takeWhile (c := '9') [] rfl)
    let keys := List.replicate 127 (WrittenKey.plain nine)
    127 ≤ keys.length ∧ ∃ error,
      Expr.ofSource (.ofList ('$' :: '0' :: (List.replicate 127 ['.', '9']).flatten)) =
        .error error ∧
      error.message = "expression nests too deeply" ∧
      error.token? = some ⟨.symbol, ".", ⟨254, 1, 255⟩⟩ := by
  intro nine keys
  let label : Label := .number ['0'] (isNumeral_takeWhile (c := '0') [] rfl)
  have written : chainText label keys = '$' :: '0' :: (List.replicate 127 ['.', '9']).flatten := by
    decide +kernel
  have place : Position.behind (chainText label (keys.take 126)) = ⟨254, 1, 255⟩ := by
    decide +kernel
  have long : 127 ≤ keys.length := Nat.le_of_eq List.length_replicate.symm
  obtain ⟨error, parsed, message, token⟩ := (chain_reading label keys).2.2 long
  rw [written] at parsed
  rw [place] at token
  exact ⟨long, error, parsed, message, token⟩

end Command

end DataFormula
