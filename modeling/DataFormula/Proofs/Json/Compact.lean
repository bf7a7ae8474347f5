import DataFormula.Json
import DataFormula.Proofs.Json.Reader

/-!
# Compact texts

The compact text of a value spells what the value says (`Json.spells_compactChars`), and has
no control characters (`Json.visible_compactChars`). Both need numbers that are kept as
numerals of JSON.
-/

namespace DataFormula

open Json

/-! ## What values say -/

mutual

/-- What a value says. -/
def Json.document : Json → Document
  | .string text => .string text
  | .number numeral => .number numeral
  | .object members => .object members.documents

/-- What the members of an object say. -/
def Members.documents : Members → List (String × Document)
  | .nil => []
  | .cons name value rest => (name, value.document) :: rest.documents

end

mutual

/-- Every number is kept as a numeral. -/
def Json.HasNumerals : Json → Prop
  | .string _ => True
  | .number numeral => IsNumeral numeral.toList
  | .object members => members.HaveNumerals

/-- Every number of some members is kept as a numeral. -/
def Members.HaveNumerals : Members → Prop
  | .nil => True
  | .cons _ value rest => value.HasNumerals ∧ rest.HaveNumerals

end

namespace Json

/-! ## Strings -/

/-- A character is written as it is, as a letter behind a backslash, or by its number. -/
theorem escape_cases (c : Char) :
    (Json.escape c = [c] ∧ 0x20 ≤ c.toNat ∧ c ≠ '"' ∧ c ≠ '\\') ∨
      (∃ letter, Json.escape c = ['\\', letter] ∧ (letter, c) ∈ escapes) ∨
      (Json.escape c = ['\\', 'u', '0', '0'] ++ hexPair c.toNat ∧ c.toNat < 0x20) := by
  unfold Json.escape
  split
  · rename_i mark
    exact .inr (.inl ⟨_, rfl, by rw [mark]; decide⟩)
  split
  · rename_i slash
    exact .inr (.inl ⟨_, rfl, by rw [slash]; decide⟩)
  split
  · rename_i back
    exact .inr (.inl ⟨_, rfl, by rw [back]; decide⟩)
  split
  · rename_i tab
    exact .inr (.inl ⟨_, rfl, by rw [tab]; decide⟩)
  split
  · rename_i feed
    exact .inr (.inl ⟨_, rfl, by rw [feed]; decide⟩)
  split
  · rename_i form
    exact .inr (.inl ⟨_, rfl, by rw [form]; decide⟩)
  split
  · rename_i line
    exact .inr (.inl ⟨_, rfl, by rw [line]; decide⟩)
  split
  · rename_i control
    exact .inr (.inr ⟨rfl, control⟩)
  · rename_i mark slash _ _ _ _ _ visible
    exact .inl ⟨rfl, Nat.le_of_not_lt visible, mark, slash⟩

theorem unit?_hexPair {n : Nat} (small : n < 0x20) (rest : List Char) :
    unit? ('0' :: '0' :: (hexPair n ++ rest)) = some (n, rest) := by
  have digit : ∀ d < 16, hexDigit? (Nat.digitChar d) = some d := by decide
  have zero : hexDigit? '0' = some 0 := rfl
  have upper := digit (n / 16) (by omega)
  have lower := digit (n % 16) (by omega)
  have value : ((0 * 16 + 0) * 16 + n / 16) * 16 + n % 16 = n := by omega
  simp only [hexPair, List.cons_append, List.nil_append, unit?, zero, upper, lower,
    Option.bind_eq_bind, Option.bind_some, value]

theorem spellsChar_escape (c : Char) (rest : List Char) :
    SpellsChar (Json.escape c ++ rest) c rest := by
  rcases escape_cases c with ⟨same, visible, mark, slash⟩ | ⟨letter, same, member⟩ | ⟨same, control⟩
  · rw [same]
    exact .plain visible mark slash
  · rw [same]
    exact .escape member
  · have notHigh : ¬ IsHigh c.toNat := by unfold IsHigh; omega
    have notLow : ¬ IsLow c.toNat := by unfold IsLow; omega
    have code := SpellsChar.code (unit?_hexPair control rest) notHigh notLow
    rw [Char.ofNat_toNat] at code
    rwa [same, List.append_assoc]

theorem spellsString_escape (data rest : List Char) :
    SpellsString (data.flatMap Json.escape ++ '"' :: rest) data rest := by
  induction data with
  | nil => exact .close
  | cons c data ih =>
      rw [List.flatMap_cons, List.append_assoc]
      exact .char (spellsChar_escape c _) ih

/-! ## Values -/

theorem named_quote {α : Type} {rule : List Char → α → List Char → Prop} {text rest : List Char}
    {a : α} (name : String) {gap : List Char} (after : Blanks gap text) (here : rule text a rest) :
    Named rule (Json.quote name ++ ':' :: gap) (name, a) rest := by
  have string := spellsString_escape name.toList (':' :: gap)
  have named := Named.named string .done after here
  rw [String.ofList_toList] at named
  rwa [Json.quote, List.append_assoc]

mutual

/-- **Compact texts say what their values say.** -/
theorem spells_compactChars (json : Json) (hasNumerals : json.HasNumerals) (rest : List Char) :
    Spells (json.compactChars ++ rest) json.document rest := by
  match json with
  | .string text =>
      have string := Spells.string (spellsString_escape text.toList rest)
      rw [String.ofList_toList] at string
      rwa [compactChars, Json.quote, List.append_assoc]
  | .number numeral =>
      have number : Spells _ _ rest := .number hasNumerals
      rwa [String.ofList_toList] at number
  | .object .nil => exact .emptyObject .done
  | .object (.cons name value more) =>
      have value := spells_compactChars value hasNumerals.1 (compactRest more ++ rest)
      simp only [compactChars, List.cons_append, List.append_assoc]
      exact .object
        (separated_compactRest more hasNumerals.2 rest (named_quote name .done value))

theorem separated_compactRest (members : Members) (haveNumerals : members.HaveNumerals)
    (rest : List Char) {text : List Char} {member : String × Document}
    (first : Named Spells text member (compactRest members ++ rest)) :
    Separated (Named Spells) '\x7d' text (member :: members.documents) rest := by
  match members with
  | .nil => exact .last .done first .done
  | .cons name value more =>
      have value := spells_compactChars value haveNumerals.1 (compactRest more ++ rest)
      simp only [compactRest, List.cons_append, List.append_assoc] at first
      exact .more .done first .done
        (separated_compactRest more haveNumerals.2 rest (named_quote name .done value))

end

theorem isText_of_spells {text : List Char} {document : Document}
    (spells : Spells text document []) : IsText (String.ofList text) document := by
  rw [IsText, String.toList_ofList]
  exact ⟨text, [], .done, spells, .done⟩

theorem isText_compact {json : Json} (hasNumerals : json.HasNumerals) :
    IsText json.compact json.document := by
  have spells := spells_compactChars json hasNumerals []
  rw [List.append_nil] at spells
  exact isText_of_spells spells

/-! ## Control characters -/

/-- No character is a control character. -/
def Visible (text : List Char) : Prop := ∀ c ∈ text, 0x20 ≤ c.toNat

theorem visible_append {front back : List Char} (first : Visible front) (second : Visible back) :
    Visible (front ++ back) := List.forall_mem_append.mpr ⟨first, second⟩

theorem visible_cons {c : Char} {text : List Char} (first : 0x20 ≤ c.toNat)
    (second : Visible text) : Visible (c :: text) := List.forall_mem_cons.mpr ⟨first, second⟩

theorem visible_escape (c : Char) : Visible (Json.escape c) := by
  rcases escape_cases c with ⟨same, visible, -⟩ | ⟨letter, same, member⟩ | ⟨same, control⟩
  · rw [same]
    exact visible_cons visible nofun
  · have each : ∀ pair ∈ escapes, 0x20 ≤ pair.1.toNat := by decide
    rw [same]
    exact visible_cons (by decide) (visible_cons (each _ member) nofun)
  · have digit : ∀ d < 16, 0x20 ≤ (Nat.digitChar d).toNat := by decide
    have hexPair : Visible (hexPair c.toNat) :=
      visible_cons (digit _ (by omega)) (visible_cons (digit _ (by omega)) nofun)
    rw [same]
    exact visible_append (List.all_iff_forall_prop.mp (by decide)) hexPair

theorem visible_quote (text : String) : Visible (Json.quote text) := by
  have data : Visible (text.toList.flatMap Json.escape) := by
    intro d member
    obtain ⟨c, -, member⟩ := List.mem_flatMap.mp member
    exact visible_escape c d member
  exact visible_cons (by decide) (visible_append data (visible_cons (by decide) nofun))

theorem IsNumeral.visible {numeral : List Char} (isNumeral : IsNumeral numeral) :
    Visible numeral := by
  intro c member
  have belongs := isNumeral.all c member
  simp only [isNumeralChar, Bool.or_eq_true, decide_eq_true_eq] at belongs
  rcases belongs with digit | mark
  · have bounds : 48 ≤ c.toNat ∧ c.toNat ≤ 57 := by
      simpa [Char.isDigit, UInt32.le_iff_toNat_le] using digit
    omega
  · have each : ∀ c ∈ ['-', '+', '.', 'e', 'E'], 0x20 ≤ c.toNat :=
      List.all_iff_forall_prop.mp (by decide)
    exact each c mark

mutual

/-- **Compact texts have no control characters.** -/
theorem visible_compactChars (json : Json) (hasNumerals : json.HasNumerals) :
    Visible json.compactChars := by
  match json with
  | .string text => exact visible_quote text
  | .number numeral => exact IsNumeral.visible hasNumerals
  | .object .nil => exact visible_cons (by decide) (visible_cons (by decide) nofun)
  | .object (.cons name value more) =>
      have first := visible_compactChars value hasNumerals.1
      have others := visible_compactRest more hasNumerals.2
      simp only [compactChars, List.cons_append, List.append_assoc]
      exact visible_cons (by decide) (visible_append (visible_quote name)
        (visible_cons (by decide) (visible_append first others)))

theorem visible_compactRest (members : Members) (haveNumerals : members.HaveNumerals) :
    Visible (compactRest members) := by
  match members with
  | .nil => exact visible_cons (by decide) nofun
  | .cons name value more =>
      have first := visible_compactChars value haveNumerals.1
      have others := visible_compactRest more haveNumerals.2
      simp only [compactRest, List.cons_append, List.append_assoc]
      exact visible_cons (by decide) (visible_append (visible_quote name)
        (visible_cons (by decide) (visible_append first others)))

end

end Json

end DataFormula
