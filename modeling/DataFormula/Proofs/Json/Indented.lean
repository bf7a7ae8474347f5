import DataFormula.Proofs.Expr.JsonReading

/-!
# Indented texts

The indented text of a value is its compact text with blanks and line ends between the parts,
and none inside its strings: without them the compact text is left
(`Json.squeeze_prettyChars`), and with them it says what the value says
(`Json.spells_prettyChars`). So the two texts of an expression are one document
(`Expr.prettyJson_layout`).
-/

namespace DataFormula

namespace Json

/-! ## Texts without blanks -/

/-- Where a character of a text stands. -/
inductive Region where
  /-- Outside of all strings, or at the start of one. -/
  | outside
  /-- Inside a string, or at its end. -/
  | string
  /-- Inside a string, behind a backslash. -/
  | escape
deriving DecidableEq

/-- Where the next character stands. -/
def Region.behind (c : Char) : Region → Region
  | outside => if c = '"' then string else outside
  | string => if c = '"' then outside else if c = '\\' then escape else string
  | escape => string

/-- A text without the blanks and line ends outside of its strings. -/
def squeeze : Region → List Char → List Char
  | _, [] => []
  | region, c :: text =>
    if region = .outside ∧ (c = ' ' ∨ c = '\n') then squeeze (region.behind c) text
    else c :: squeeze (region.behind c) text

section Squeeze

variable {c : Char} {text rest : List Char}

theorem squeeze_gap (all : ∀ c ∈ text, c = ' ' ∨ c = '\n') :
    squeeze .outside (text ++ rest) = squeeze .outside rest := by
  induction text with
  | nil => rfl
  | cons c text ih =>
      obtain ⟨gap, others⟩ := List.forall_mem_cons.mp all
      have notMark : c ≠ '"' := by
        rintro rfl
        exact absurd gap (by decide)
      rw [List.cons_append, squeeze, if_pos ⟨rfl, gap⟩, Region.behind, if_neg notMark]
      exact ih others

/-- What has no blanks and starts no string is kept. -/
theorem squeeze_plain (all : ∀ c ∈ text, c ≠ ' ' ∧ c ≠ '\n' ∧ c ≠ '"') :
    squeeze .outside (text ++ rest) = text ++ squeeze .outside rest := by
  induction text with
  | nil => rfl
  | cons c text ih =>
      obtain ⟨⟨blank, line, mark⟩, others⟩ := List.forall_mem_cons.mp all
      rw [List.cons_append, squeeze, if_neg (by simp [blank, line]), Region.behind, if_neg mark,
        ih others, List.cons_append]

/-- Inside a string everything is kept. -/
theorem squeeze_string (c : Char) (text : List Char) :
    squeeze .string (c :: text) = c :: squeeze (Region.behind c .string) text :=
  if_neg (by simp)

theorem squeeze_string_plain (all : ∀ c ∈ text, c ≠ '"' ∧ c ≠ '\\') :
    squeeze .string (text ++ rest) = text ++ squeeze .string rest := by
  induction text with
  | nil => rfl
  | cons c text ih =>
      obtain ⟨⟨mark, slash⟩, others⟩ := List.forall_mem_cons.mp all
      rw [List.cons_append, squeeze_string, Region.behind, if_neg mark, if_neg slash, ih others,
        List.cons_append]

theorem squeeze_string_letter (letter : Char) (text : List Char) :
    squeeze .string ('\\' :: letter :: text) = '\\' :: letter :: squeeze .string text :=
  rfl

/-- No character ends the string that it is written in. -/
theorem squeeze_escape (c : Char) (rest : List Char) :
    squeeze .string (Json.escape c ++ rest) = Json.escape c ++ squeeze .string rest := by
  rcases escape_cases c with ⟨same, -, mark, slash⟩ | ⟨letter, same, -⟩ | ⟨same, control⟩
  · rw [same]
    exact squeeze_string_plain (List.forall_mem_singleton.mpr ⟨mark, slash⟩)
  · rw [same]
    exact squeeze_string_letter letter rest
  · have digit : ∀ d < 16, Nat.digitChar d ≠ '"' ∧ Nat.digitChar d ≠ '\\' := by decide
    have digits : ∀ d ∈ ['0', '0'] ++ hexPair c.toNat, d ≠ '"' ∧ d ≠ '\\' :=
      List.forall_mem_append.mpr ⟨List.all_iff_forall_prop.mp (by decide),
        List.forall_mem_cons.mpr
          ⟨digit _ (by omega), List.forall_mem_singleton.mpr (digit _ (by omega))⟩⟩
    rw [same]
    exact (squeeze_string_letter 'u' _).trans
      (congrArg ('\\' :: 'u' :: ·) (squeeze_string_plain digits))

theorem squeeze_quote (text : String) (rest : List Char) :
    squeeze .outside (Json.quote text ++ rest) = Json.quote text ++ squeeze .outside rest := by
  have inside (data : List Char) :
      squeeze .string (data.flatMap Json.escape ++ '"' :: rest) =
        data.flatMap Json.escape ++ '"' :: squeeze .outside rest := by
    induction data with
    | nil => rfl
    | cons c data ih =>
        rw [List.flatMap_cons, List.append_assoc, squeeze_escape, ih, List.append_assoc]
  simp only [Json.quote, List.cons_append, List.append_assoc, List.nil_append]
  exact congrArg ('"' :: ·) (inside text.toList)

theorem IsNumeral.squeeze_eq (isNumeral : IsNumeral text) (rest : List Char) :
    squeeze .outside (text ++ rest) = text ++ squeeze .outside rest := by
  apply squeeze_plain
  intro c member
  have belongs := isNumeral.all c member
  refine ⟨?_, ?_, ?_⟩ <;> rintro rfl <;> exact absurd belongs (by decide)

theorem mem_newline {depth : Nat} (member : c ∈ newline depth) : c = ' ' ∨ c = '\n' := by
  rcases List.mem_cons.mp member with line | blank
  · exact .inr line
  · exact .inl (List.eq_of_mem_replicate blank)

theorem squeeze_newline (depth : Nat) (rest : List Char) :
    squeeze .outside (newline depth ++ rest) = squeeze .outside rest :=
  squeeze_gap fun _ => mem_newline

/-- The name of a member is kept, and the blank behind its colon is not. -/
theorem squeeze_named (name : String) (rest : List Char) :
    squeeze .outside (Json.quote name ++ ':' :: ' ' :: rest) =
      Json.quote name ++ ':' :: squeeze .outside rest := by
  rw [squeeze_quote]
  rfl

/-- Marks between the parts of an object are kept. -/
theorem squeeze_mark {mark : Char} (isMark : mark ∈ ['\x7b', ',', '\x7d']) (rest : List Char) :
    squeeze .outside (mark :: rest) = mark :: squeeze .outside rest := by
  have each : ∀ mark ∈ ['\x7b', ',', '\x7d'], mark ≠ ' ' ∧ mark ≠ '\n' ∧ mark ≠ '"' :=
    List.all_iff_forall_prop.mp (by decide)
  have plain : ∀ c ∈ [mark], c ≠ ' ' ∧ c ≠ '\n' ∧ c ≠ '"' :=
    List.forall_mem_singleton.mpr (each mark isMark)
  exact squeeze_plain plain

mutual

/-- **Without its blanks an indented text is compact.** -/
theorem squeeze_prettyChars (json : Json) (hasNumerals : json.HasNumerals) (depth : Nat)
    (rest : List Char) :
    squeeze .outside (json.prettyChars depth ++ rest) =
      json.compactChars ++ squeeze .outside rest := by
  match json with
  | .string text => exact squeeze_quote text rest
  | .number numeral => exact IsNumeral.squeeze_eq hasNumerals rest
  | .object .nil => rfl
  | .object (.cons name value more) =>
      have first := squeeze_prettyChars value hasNumerals.1 (depth + 1)
      have others := squeeze_prettyRest more hasNumerals.2 depth rest
      simp only [prettyChars, compactChars, List.cons_append, List.append_assoc,
        List.nil_append]
      rw [squeeze_mark (by decide), squeeze_newline, squeeze_named, first, others]

theorem squeeze_prettyRest (members : Members) (haveNumerals : members.HaveNumerals)
    (depth : Nat) (rest : List Char) :
    squeeze .outside (prettyRest depth members ++ rest) =
      compactRest members ++ squeeze .outside rest := by
  match members with
  | .nil =>
      rw [prettyRest, List.append_assoc, squeeze_newline]
      exact squeeze_mark (by decide) rest
  | .cons name value more =>
      have first := squeeze_prettyChars value haveNumerals.1 (depth + 1)
      have others := squeeze_prettyRest more haveNumerals.2 depth rest
      simp only [prettyRest, compactRest, List.cons_append, List.append_assoc,
        List.nil_append]
      rw [squeeze_mark (by decide), squeeze_newline, squeeze_named, first, others]

end

end Squeeze

/-! ## What indented texts say -/

theorem blanks_newline (depth : Nat) (rest : List Char) :
    Blanks (newline depth ++ rest) rest := by
  have further (count : Nat) : Blanks (List.replicate count ' ' ++ rest) rest := by
    induction count with
    | zero => exact .done
    | succ count ih => exact .blank (by decide) ih
  exact .blank (by decide) (further _)

mutual

/-- **Indented texts say what their values say.** -/
theorem spells_prettyChars (json : Json) (hasNumerals : json.HasNumerals) (depth : Nat)
    (rest : List Char) : Spells (json.prettyChars depth ++ rest) json.document rest := by
  match json with
  -- Strings, numbers and objects without members have one text only.
  | .string text => exact spells_compactChars (.string text) hasNumerals rest
  | .number numeral => exact spells_compactChars (.number numeral) hasNumerals rest
  | .object .nil => exact .emptyObject .done
  | .object (.cons name value more) =>
      have value := spells_prettyChars value hasNumerals.1 (depth + 1)
        (prettyRest depth more ++ rest)
      simp only [prettyChars, List.cons_append, List.append_assoc]
      exact .object <| separated_prettyRest more hasNumerals.2 depth rest (blanks_newline _ _)
        (named_quote name (.blank (by decide) .done) value)

theorem separated_prettyRest (members : Members) (haveNumerals : members.HaveNumerals)
    (depth : Nat) (rest : List Char) {text inner : List Char} {member : String × Document}
    (before : Blanks text inner)
    (first : Named Spells inner member (prettyRest depth members ++ rest)) :
    Separated (Named Spells) '\x7d' text (member :: members.documents) rest := by
  match members with
  | .nil =>
      rw [prettyRest, List.append_assoc] at first
      exact .last before first (blanks_newline _ _)
  | .cons name value more =>
      have value := spells_prettyChars value haveNumerals.1 (depth + 1)
        (prettyRest depth more ++ rest)
      simp only [prettyRest, List.cons_append, List.append_assoc] at first
      exact .more before first .done <|
        separated_prettyRest more haveNumerals.2 depth rest (blanks_newline _ _)
          (named_quote name (.blank (by decide) .done) value)

end

theorem isText_pretty {json : Json} (hasNumerals : json.HasNumerals) :
    IsText json.pretty json.document := by
  have spells := spells_prettyChars json hasNumerals 0 []
  rw [List.append_nil] at spells
  exact isText_of_spells spells

end Json

open Json

/-- **The two texts of an expression are one document.** The indented one without the blanks
and line ends outside of its strings is the compact one, and what is read from either is the
same: the tree. -/
theorem Expr.prettyJson_layout (expr : Expr) :
    String.ofList (squeeze .outside expr.prettyJson.toList) = expr.json ∧
      ∃ document, IsText expr.prettyJson document ∧ IsText expr.json document ∧
        read? expr.prettyJson = some document ∧ read? expr.json = some document ∧
          Describes document expr := by
  have indented : IsText expr.prettyJson expr.toJson.document :=
    isText_pretty expr.hasNumerals_toJson
  have compact : IsText expr.json expr.toJson.document := isText_compact expr.hasNumerals_toJson
  refine ⟨?_, _, indented, compact, read?_eq_some_iff.mpr indented,
    read?_eq_some_iff.mpr compact, expr.describes_toJson⟩
  have squeezed := squeeze_prettyChars expr.toJson expr.hasNumerals_toJson 0 []
  rw [List.append_nil, squeeze, List.append_nil] at squeezed
  rw [prettyJson, pretty, String.toList_ofList, squeezed, json, Json.compact]

/-- Blanks, quotes and backslashes inside a string stay. -/
example :
    squeeze .outside "\x7b\n  \"a b\": \"\\\" \\\\\",\n  \"c\": 1\n\x7d".toList =
      "\x7b\"a b\":\"\\\" \\\\\",\"c\":1\x7d".toList := by
  decide +kernel

end DataFormula
