import DataFormula.Proofs.Json.Numeral

/-!
# Reading JSON texts

A reader of JSON texts that reads exactly what the grammar says (`Json.read?_eq_some_iff`):
it fails on every other text, and no text says two documents. The first character tells what
is read, and a number is as long as it can be, since none of its characters can stand behind
a value.
-/

namespace DataFormula.Json

open Lexeme (IsRun isRun_takeWhile)

/-- What reads something at the start of a text, and gives what stands behind it. -/
abbrev Reader (α : Type) := List Char → Option (α × List Char)

/-! ## Blanks and marks -/

/-- A text behind its blanks. -/
def skipBlanks : List Char → List Char
  | [] => []
  | c :: text => if c ∈ blanks then skipBlanks text else c :: text

/-- A text behind a character that it has to start with. -/
def expect? (mark : Char) : List Char → Option (List Char)
  | [] => none
  | c :: text => if c = mark then some text else none

section Blanks

variable {mark : Char} {text rest : List Char}

theorem blanks_skipBlanks (text : List Char) : Blanks text (skipBlanks text) := by
  induction text with
  | nil => exact .done
  | cons c text ih =>
      by_cases blank : c ∈ blanks
      · rw [skipBlanks, if_pos blank]
        exact .blank blank ih
      · rw [skipBlanks, if_neg blank]
        exact .done

theorem Blanks.skipBlanks_eq (gap : Blanks text rest) (stops : ∀ c ∈ rest.head?, c ∉ blanks) :
    skipBlanks text = rest := by
  induction gap with
  | @done rest =>
      cases rest with
      | nil => rfl
      | cons c rest => exact if_neg (stops c rfl)
  | blank member _ ih =>
      rw [skipBlanks, if_pos member]
      exact ih stops

theorem Blanks.length_le (gap : Blanks text rest) : rest.length ≤ text.length := by
  induction gap with
  | done => exact Nat.le_refl _
  | blank _ _ ih => exact Nat.le_trans ih (Nat.le_succ _)

theorem expect?_eq_some_iff : expect? mark text = some rest ↔ text = mark :: rest := by
  cases text with
  | nil => simp [expect?]
  | cons c text => by_cases same : c = mark <;> simp [expect?, same]

end Blanks

/-! ## Strings -/

instance (unit : Nat) : Decidable (IsHigh unit) :=
  inferInstanceAs (Decidable (0xd800 ≤ unit ∧ unit < 0xdc00))

instance (unit : Nat) : Decidable (IsLow unit) :=
  inferInstanceAs (Decidable (0xdc00 ≤ unit ∧ unit < 0xe000))

/-- Reads the second number of a surrogate pair, given the first one. -/
def readLow (high : Nat) (text : List Char) : Option (Char × List Char) := do
  let slash ← expect? '\\' text
  let behind ← expect? 'u' slash
  let (low, rest) ← unit? behind
  if IsLow low then some (Char.ofNat (pairCode high low), rest) else none

/-- Reads a character that is written in hexadecimal. -/
def readCode : Reader Char := fun text => do
  let (unit, rest) ← unit? text
  if IsHigh unit then readLow unit rest
  else if IsLow unit then none
  else some (Char.ofNat unit, rest)

/-- Reads one character inside a string. -/
def readChar : Reader Char
  | [] => none
  | c :: text =>
    if c = '\\' then
      match text with
      | [] => none
      | letter :: rest =>
        if letter = 'u' then readCode rest else (escapes.lookup letter).map (·, rest)
    else if c.toNat < 0x20 ∨ c = '"' then none
    else some (c, text)

/-- Reads the characters of a string; `limit` bounds how many. -/
def readString : (limit : Nat) → Reader (List Char)
  | 0, _ => none
  | limit + 1, text =>
    match expect? '"' text with
    | some rest => some ([], rest)
    | none => do
      let (c, behind) ← readChar text
      let (data, rest) ← readString limit behind
      some (c :: data, rest)

section String

variable {c : Char} {unit : Nat} {limit : Nat} {text data rest : List Char}

theorem length_of_unit? (given : unit? text = some (unit, rest)) : rest.length < text.length := by
  unfold unit? at given
  split at given
  · simp only [Option.bind_eq_bind, Option.bind_eq_some_iff, Option.some.injEq, Prod.mk.injEq]
      at given
    obtain ⟨-, -, -, -, -, -, -, -, -, rfl⟩ := given
    simp only [List.length_cons]
    omega
  · cases given

theorem SpellsChar.length_lt (spells : SpellsChar text c rest) : rest.length < text.length := by
  cases spells with
  | plain | escape => simp only [List.length_cons]; omega
  | code given =>
      have := length_of_unit? given
      simp only [List.length_cons]
      omega
  | pair first second =>
      have := length_of_unit? first
      have := length_of_unit? second
      simp only [List.length_cons] at *
      omega

theorem SpellsString.length_lt (spells : SpellsString text data rest) :
    rest.length < text.length := by
  induction spells with
  | close => exact Nat.lt_succ_self _
  | char here _ ih => exact Nat.lt_trans ih here.length_lt

/-- No letter stands for two characters, so it can be looked up. -/
theorem lookup_escapes_eq_some_iff {letter : Char} :
    escapes.lookup letter = some c ↔ (letter, c) ∈ escapes := by
  have functional : ∀ pair ∈ escapes, escapes.lookup pair.1 = some pair.2 := by decide
  refine ⟨fun found => ?_, fun member => functional _ member⟩
  obtain ⟨front, back, split, -⟩ := List.lookup_eq_some_iff.mp found
  rw [split]
  exact List.mem_append_right front List.mem_cons_self

theorem spellsChar_of_readCode (given : readCode text = some (c, rest)) :
    SpellsChar ('\\' :: 'u' :: text) c rest := by
  simp only [readCode, Option.bind_eq_bind, Option.bind_eq_some_iff] at given
  obtain ⟨⟨unit, behind⟩, first, given⟩ := given
  split at given
  · rename_i isHigh
    simp only [readLow, Option.bind_eq_bind, Option.bind_eq_some_iff, expect?_eq_some_iff,
      Option.ite_none_right_eq_some, Option.some.injEq, Prod.mk.injEq] at given
    obtain ⟨slash, rfl, text, rfl, ⟨low, behind⟩, second, isLow, rfl, rfl⟩ := given
    exact .pair first second isHigh isLow
  · rename_i notHigh
    simp only [Option.ite_none_left_eq_some, Option.some.injEq, Prod.mk.injEq] at given
    obtain ⟨notLow, rfl, rfl⟩ := given
    exact .code first notHigh notLow

theorem readCode_of_unit (given : unit? text = some (unit, rest)) (notHigh : ¬ IsHigh unit)
    (notLow : ¬ IsLow unit) : readCode text = some (Char.ofNat unit, rest) := by
  simp only [readCode, given, Option.bind_eq_bind, Option.bind_some, if_neg notHigh,
    if_neg notLow]

theorem readCode_of_pair {high low : Nat} {behind : List Char}
    (first : unit? text = some (high, '\\' :: 'u' :: behind))
    (second : unit? behind = some (low, rest)) (isHigh : IsHigh high) (isLow : IsLow low) :
    readCode text = some (Char.ofNat (pairCode high low), rest) := by
  simp only [readCode, readLow, first, second, expect?, Option.bind_eq_bind, Option.bind_some,
    if_pos isHigh, if_pos isLow, if_true]

/-- Characters inside strings are read as they are spelled. -/
theorem readChar_eq_some_iff : readChar text = some (c, rest) ↔ SpellsChar text c rest := by
  refine ⟨fun given => ?_, fun spells => ?_⟩
  · cases text with
    | nil => cases given
    | cons first text =>
        by_cases slash : first = '\\'
        · subst slash
          cases text with
          | nil => cases given
          | cons letter text =>
              by_cases code : letter = 'u'
              · subst code
                exact spellsChar_of_readCode given
              · simp only [readChar, if_true, code, if_false, Option.map_eq_some_iff] at given
                obtain ⟨meant, found, given⟩ := given
                cases given
                exact .escape (lookup_escapes_eq_some_iff.mp found)
        · simp only [readChar, slash, if_false, Option.ite_none_left_eq_some, not_or,
            Nat.not_lt] at given
          obtain ⟨⟨visible, notMark⟩, given⟩ := given
          cases given
          exact .plain visible notMark slash
  · cases spells with
    | plain visible notMark notEscape =>
        simp only [readChar, notEscape, if_false, Nat.not_lt.mpr visible, notMark, or_self]
    | @escape letter _ _ member =>
        have noCode : ∀ pair ∈ escapes, pair.1 ≠ 'u' := by decide
        have known : letter ≠ 'u' := noCode _ member
        simp only [readChar, if_true, known, if_false, lookup_escapes_eq_some_iff.mpr member,
          Option.map_some]
    | code given notHigh notLow => exact readCode_of_unit given notHigh notLow
    | pair first second isHigh isLow => exact readCode_of_pair first second isHigh isLow

theorem SpellsChar.expect?_mark (spells : SpellsChar text c rest) : expect? '"' text = none := by
  cases spells with
  | plain _ notMark => exact if_neg notMark
  | escape | code | pair => rfl

theorem spellsString_of_readString (given : readString limit text = some (data, rest)) :
    SpellsString text data rest := by
  induction limit generalizing text data with
  | zero => cases given
  | succ limit ih =>
      rw [readString] at given
      split at given
      · rename_i closed
        cases given
        rw [expect?_eq_some_iff.mp closed]
        exact .close
      · simp only [Option.bind_eq_bind, Option.bind_eq_some_iff] at given
        obtain ⟨⟨c, behind⟩, here, ⟨others, after⟩, further, given⟩ := given
        cases given
        exact .char (readChar_eq_some_iff.mp here) (ih further)

theorem SpellsString.readString_eq (spells : SpellsString text data rest)
    (enough : text.length ≤ limit) : readString limit text = some (data, rest) := by
  induction spells generalizing limit with
  | close =>
      cases limit with
      | zero => exact absurd enough (Nat.not_succ_le_zero _)
      | succ limit => rfl
  | char here _ ih =>
      have shorter := here.length_lt
      cases limit with
      | zero => omega
      | succ limit =>
          rw [readString, here.expect?_mark, readChar_eq_some_iff.mpr here]
          simp only [Option.bind_eq_bind, Option.bind_some, ih (by omega : _ ≤ limit)]

/-- Two numbers of a surrogate pair are one character, one of them alone is none. -/
example :
    readString 20 "\\ud83d\\ude00\\/\"".toList = some (['😀', '/'], []) ∧
      readString 20 "\\ud83d\"".toList = none := by
  decide +kernel

end String

/-! ## Numbers and words -/

/-- The characters of numbers. -/
def isNumeralChar (c : Char) : Bool := c.isDigit || c ∈ ['-', '+', '.', 'e', 'E']

/-- No number goes on with a text. -/
def Ends (text : List Char) : Prop := ∀ c ∈ text.head?, isNumeralChar c = false

/-- Reads a number, as long as it can be. -/
def readNumeral : Reader Document := fun text =>
  let numeral := text.takeWhile isNumeralChar
  if IsNumeral numeral then some (.number (.ofList numeral), text.dropWhile isNumeralChar)
  else none

/-- Reads one of the words. -/
def readWord : Reader Document := fun text =>
  words.findSome? fun (word, document) =>
    if word.isPrefixOf text then some (document, text.drop word.length) else none

section Leaf

variable {numeral text rest : List Char} {document : Document}

theorem IsNumeral.all (isNumeral : IsNumeral numeral) :
    ∀ c ∈ numeral, isNumeralChar c = true := by
  have digit {digits : List Char} (isDigits : IsDigits digits) :
      ∀ c ∈ digits, isNumeralChar c = true := fun c member => by
    simp [isNumeralChar, isDigits.2 c member]
  have sign {marks text : List Char} (isSign : IsSign marks text)
      (each : ∀ c ∈ marks, isNumeralChar c = true) : ∀ c ∈ text, isNumeralChar c = true := by
    rcases isSign with rfl | ⟨mark, member, rfl⟩
    · nofun
    · exact List.forall_mem_singleton.mpr (each mark member)
  cases isNumeral with
  | parts isSign isWhole isFraction isExponent =>
      simp only [List.forall_mem_append]
      refine ⟨sign isSign (List.all_iff_forall_prop.mp rfl), digit isWhole.1, ?_, ?_⟩
      · rcases isFraction with rfl | ⟨digits, isDigits, rfl⟩
        · nofun
        · exact List.forall_mem_cons.mpr ⟨by decide, digit isDigits⟩
      · rcases isExponent with rfl | ⟨mark, inner, digits, isMark, isSign, isDigits, rfl⟩
        · nofun
        · have each : ∀ mark ∈ ['e', 'E'], isNumeralChar mark = true :=
            List.all_iff_forall_prop.mp (by decide)
          simp only [List.forall_mem_cons, List.forall_mem_append]
          exact ⟨each mark isMark, sign isSign (List.all_iff_forall_prop.mp rfl), digit isDigits⟩

/-- A number starts with its sign or with a digit. -/
theorem IsNumeral.exists_head (isNumeral : IsNumeral numeral) :
    ∃ c others, numeral = c :: others ∧ (c = '-' ∨ c.isDigit = true) := by
  cases isNumeral with
  | @parts sign whole fraction exponent isSign isWhole =>
      rcases isSign with rfl | ⟨mark, member, rfl⟩
      · obtain ⟨c, others, rfl⟩ := List.exists_cons_of_ne_nil isWhole.1.1
        exact ⟨c, _, rfl, .inr (isWhole.1.2 c List.mem_cons_self)⟩
      · exact ⟨mark, _, rfl, .inl (List.mem_singleton.mp member)⟩

theorem IsNumeral.readNumeral_eq (isNumeral : IsNumeral numeral) (ends : Ends rest) :
    readNumeral (numeral ++ rest) = some (.number (.ofList numeral), rest) := by
  have run : IsRun isNumeralChar numeral rest := ⟨isNumeral.all, ends⟩
  simp only [readNumeral, run.takeWhile_eq, run.dropWhile_eq, isNumeral, if_true]

theorem spells_of_readNumeral (given : readNumeral text = some (document, rest)) :
    Spells text document rest := by
  simp only [readNumeral, Option.ite_none_right_eq_some, Option.some.injEq, Prod.mk.injEq]
    at given
  obtain ⟨isNumeral, rfl, rfl⟩ := given
  have spells : Spells (_ ++ text.dropWhile isNumeralChar) _ _ := .number isNumeral
  rwa [List.takeWhile_append_dropWhile] at spells

theorem spells_of_readWord (given : readWord text = some (document, rest)) :
    Spells text document rest := by
  obtain ⟨⟨word, meant⟩, member, found⟩ := List.exists_of_findSome?_eq_some given
  simp only [Option.ite_none_right_eq_some, Option.some.injEq, Prod.mk.injEq] at found
  obtain ⟨starts, rfl, rfl⟩ := found
  obtain ⟨behind, rfl⟩ := List.isPrefixOf_iff_prefix.mp starts
  rw [List.drop_left]
  exact .word member

theorem exists_head_of_mem_words {word : List Char} (member : (word, document) ∈ words) :
    ∃ c others, word = c :: others ∧ c ∈ ['n', 't', 'f'] := by
  simp only [words, List.mem_cons, Prod.mk.injEq, List.not_mem_nil, or_false] at member
  rcases member with ⟨rfl, -⟩ | ⟨rfl, -⟩ | ⟨rfl, -⟩
  · exact ⟨'n', _, rfl, by decide⟩
  · exact ⟨'t', _, rfl, by decide⟩
  · exact ⟨'f', _, rfl, by decide⟩

theorem readWord_eq {word : List Char} (member : (word, document) ∈ words) :
    readWord (word ++ rest) = some (document, rest) := by
  simp only [words, List.mem_cons, Prod.mk.injEq, List.not_mem_nil, or_false] at member
  rcases member with ⟨rfl, rfl⟩ | ⟨rfl, rfl⟩ | ⟨rfl, rfl⟩ <;> rfl

end Leaf

/-! ## Parts of values -/

/-- Reads things with blanks around them and a comma between any two, up to a closing
bracket; `limit` bounds how many. -/
def readSeparated {α : Type} (read : Reader α) (close : Char) : (limit : Nat) → Reader (List α)
  | 0, _ => none
  | limit + 1, text => do
    let (a, behind) ← read (skipBlanks text)
    match expect? close (skipBlanks behind) with
    | some rest => some ([a], rest)
    | none => do
      let others ← expect? ',' (skipBlanks behind)
      let (further, rest) ← readSeparated read close limit others
      some (a :: further, rest)

/-- Reads what stands between brackets, behind the opening one. -/
def readBracketed {α : Type} (read : Reader α) (close : Char) : Reader (List α) := fun text =>
  match expect? close (skipBlanks text) with
  | some rest => some ([], rest)
  | none => readSeparated read close text.length text

/-- Reads a string, a colon and something else. -/
def readNamed {α : Type} (read : Reader α) : Reader (String × α) := fun text => do
  let inside ← expect? '"' text
  let (name, gap) ← readString inside.length inside
  let colon ← expect? ':' (skipBlanks gap)
  let (a, rest) ← read (skipBlanks colon)
  some ((.ofList name, a), rest)

/-- Reads a value with parts that nest less than `depth` deep. -/
def readValue : (depth : Nat) → Reader Document
  | 0, _ => none
  | _ + 1, [] => none
  | depth + 1, c :: inside =>
    if c = '"' then
      (readString inside.length inside).map fun (data, rest) => (.string (.ofList data), rest)
    else if c = '[' then
      (readBracketed (readValue depth) ']' inside).map fun (items, rest) => (.array items, rest)
    else if c = '\x7b' then
      (readBracketed (readNamed (readValue depth)) '\x7d' inside).map fun (members, rest) =>
        (.object members, rest)
    else if c = '-' ∨ c.isDigit = true then readNumeral (c :: inside)
    else readWord (c :: inside)

/-- Reads the document that a whole text says. -/
def read? (text : String) : Option Document := do
  let (document, behind) ← readValue text.length (skipBlanks text.toList)
  if skipBlanks behind = [] then some document else none

/-! ## What is read is spelled -/

section Sound

variable {α : Type} {read : Reader α} {rule : List Char → α → List Char → Prop} {close : Char}
  {text rest : List Char}

/-- What a reader reads follows a rule. -/
def Follows (read : Reader α) (rule : List Char → α → List Char → Prop) : Prop :=
  ∀ text a rest, read text = some (a, rest) → rule text a rest

theorem Follows.separated {limit : Nat} {items : List α} (follows : Follows read rule)
    (given : readSeparated read close limit text = some (items, rest)) :
    Separated rule close text items rest := by
  induction limit generalizing text items with
  | zero => cases given
  | succ limit ih =>
      simp only [readSeparated, Option.bind_eq_bind, Option.bind_eq_some_iff] at given
      obtain ⟨⟨a, behind⟩, here, given⟩ := given
      have after := blanks_skipBlanks behind
      split at given
      · rename_i closed
        cases given
        rw [expect?_eq_some_iff.mp closed] at after
        exact .last (blanks_skipBlanks text) (follows _ _ _ here) after
      · simp only [Option.bind_eq_some_iff] at given
        obtain ⟨others, comma, ⟨further, rest⟩, others, given⟩ := given
        cases given
        rw [expect?_eq_some_iff.mp comma] at after
        exact .more (blanks_skipBlanks text) (follows _ _ _ here) after (ih others)

theorem Follows.bracketed {items : List α} (follows : Follows read rule)
    (given : readBracketed read close text = some (items, rest)) :
    (items = [] ∧ Blanks text (close :: rest)) ∨ Separated rule close text items rest := by
  unfold readBracketed at given
  split at given
  · rename_i closed
    cases given
    have gap := blanks_skipBlanks text
    rw [expect?_eq_some_iff.mp closed] at gap
    exact .inl ⟨rfl, gap⟩
  · exact .inr (follows.separated given)

theorem Follows.named (follows : Follows read rule) : Follows (readNamed read) (Named rule) := by
  intro text member rest given
  simp only [readNamed, Option.bind_eq_bind, Option.bind_eq_some_iff, expect?_eq_some_iff]
    at given
  obtain ⟨inside, rfl, ⟨name, gap⟩, string, colon, mark, ⟨a, behind⟩, here, given⟩ := given
  cases given
  have before := blanks_skipBlanks gap
  rw [mark] at before
  exact .named (spellsString_of_readString string) before (blanks_skipBlanks colon)
    (follows _ _ _ here)

theorem follows_readValue (depth : Nat) : Follows (readValue depth) Spells := by
  induction depth with
  | zero => nofun
  | succ depth ih =>
      intro text document rest given
      cases text with
      | nil => cases given
      | cons c inside =>
          rw [readValue] at given
          split at given
          · rename_i mark
            subst mark
            obtain ⟨⟨data, behind⟩, string, given⟩ := Option.map_eq_some_iff.mp given
            cases given
            exact .string (spellsString_of_readString string)
          split at given
          · rename_i bracket
            subst bracket
            obtain ⟨⟨items, behind⟩, inside, given⟩ := Option.map_eq_some_iff.mp given
            cases given
            rcases ih.bracketed inside with ⟨rfl, gap⟩ | separated
            · exact .emptyArray gap
            · exact .array separated
          split at given
          · rename_i brace
            subst brace
            obtain ⟨⟨members, behind⟩, inside, given⟩ := Option.map_eq_some_iff.mp given
            cases given
            rcases ih.named.bracketed inside with ⟨rfl, gap⟩ | separated
            · exact .emptyObject gap
            · exact .object separated
          split at given
          · exact spells_of_readNumeral given
          · exact spells_of_readWord given

end Sound

/-! ## What is spelled is read -/

/-- A text starts with no blank and with no closing bracket. -/
def Opens (text : List Char) : Prop := ∀ c ∈ text.head?, c ∉ blanks ∧ c ∉ [']', '\x7d']

section Complete

variable {α : Type} {read : Reader α} {rule : List Char → α → List Char → Prop} {close : Char}
  {size : Nat} {word numeral text rest : List Char} {document : Document}

theorem opens_cons {c : Char}
    (member : c ∈ ['"', '[', '\x7b', '-', 'n', 't', 'f'] ∨ c.isDigit = true) (text : List Char) :
    Opens (c :: text) := by
  have noDigit : ∀ c ∈ blanks ++ [']', '\x7d'], c.isDigit = false :=
    List.all_iff_forall_prop.mp (by decide)
  have apart : ∀ c ∈ ['"', '[', '\x7b', '-', 'n', 't', 'f'], c ∉ blanks ++ [']', '\x7d'] :=
    List.all_iff_forall_prop.mp (by decide)
  rintro first ⟨⟩
  rw [← not_or, ← List.mem_append]
  intro closing
  rcases member with member | digit
  · exact apart c member closing
  · rw [noDigit c closing] at digit
    cases digit

theorem Opens.skipBlanks_eq (opens : Opens rest) (gap : Blanks text rest) :
    skipBlanks text = rest :=
  gap.skipBlanks_eq fun c head => (opens c head).1

theorem Opens.expect?_eq_none (opens : Opens text) (closes : close ∈ [']', '\x7d']) :
    expect? close text = none := by
  cases text with
  | nil => rfl
  | cons c text =>
      apply if_neg
      rintro rfl
      exact (opens c rfl).2 closes

theorem skipBlanks_of_mark {mark : Char} (member : mark ∈ [',', ':', ']', '\x7d'])
    (gap : Blanks text (mark :: rest)) : skipBlanks text = mark :: rest := by
  have apart : ∀ mark ∈ [',', ':', ']', '\x7d'], mark ∉ blanks :=
    List.all_iff_forall_prop.mp (by decide)
  apply gap.skipBlanks_eq
  rintro c ⟨⟩
  exact apart _ member

theorem ends_cons {mark : Char} (member : mark ∈ [',', ']', '\x7d']) (text : List Char) :
    Ends (mark :: text) := by
  have noMark : ∀ mark ∈ [',', ']', '\x7d'], isNumeralChar mark = false :=
    List.all_iff_forall_prop.mp (by decide)
  rintro c ⟨⟩
  exact noMark _ member

/-- No number goes on with blanks. -/
theorem Blanks.ends (gap : Blanks text rest) (ends : Ends rest) : Ends text := by
  have noBlank : ∀ c ∈ blanks, isNumeralChar c = false :=
    List.all_iff_forall_prop.mp (by decide)
  cases gap with
  | done => exact ends
  | blank blank =>
      rintro c ⟨⟩
      exact noBlank _ blank

/-- Whatever follows a rule in a short text is read. -/
structure Covers (size : Nat) (read : Reader α) (rule : List Char → α → List Char → Prop) :
    Prop where
  opens : ∀ text a rest, rule text a rest → Opens text
  length_lt : ∀ text a rest, text.length ≤ size → rule text a rest → rest.length < text.length
  read_eq : ∀ text a rest, text.length ≤ size → rule text a rest → Ends rest →
    read text = some (a, rest)

theorem Covers.separated {items : List α} (covers : Covers size read rule)
    (closes : close ∈ [']', '\x7d']) (separated : Separated rule close text items rest)
    (within : text.length ≤ size) :
    rest.length < text.length ∧
      ∀ limit, text.length ≤ limit → readSeparated read close limit text = some (items, rest) := by
  have isMark : close ∈ [',', ':', ']', '\x7d'] :=
    List.mem_cons_of_mem _ (List.mem_cons_of_mem _ closes)
  have isEnd : close ∈ [',', ']', '\x7d'] := List.mem_cons_of_mem _ closes
  have notComma : close ≠ ',' := by
    rintro rfl
    exact absurd closes (by decide)
  -- A number among them ends where it should, before a blank, a comma or the bracket.
  induction separated with
  | @last text inner behind rest a before here after =>
      have inside : inner.length ≤ size := Nat.le_trans before.length_le within
      have shorter := covers.length_lt _ _ _ inside here
      have length := before.length_le
      have length' := after.length_le
      rw [List.length_cons] at length'
      refine ⟨by omega, fun limit enough => ?_⟩
      cases limit with
      | zero => omega
      | succ limit =>
          have given := covers.read_eq _ _ _ inside here (after.ends (ends_cons isEnd _))
          simp only [readSeparated, (covers.opens _ _ _ here).skipBlanks_eq before, given,
            Option.bind_eq_bind, Option.bind_some, skipBlanks_of_mark isMark after, expect?,
            if_true]
  | @more text inner behind others rest a further before here after _ ih =>
      have inside : inner.length ≤ size := Nat.le_trans before.length_le within
      have shorter := covers.length_lt _ _ _ inside here
      have length := before.length_le
      have length' := after.length_le
      rw [List.length_cons] at length'
      obtain ⟨left, further⟩ := ih (by omega)
      refine ⟨by omega, fun limit enough => ?_⟩
      cases limit with
      | zero => omega
      | succ limit =>
          have given := covers.read_eq _ _ _ inside here (after.ends (ends_cons (by decide) _))
          simp only [readSeparated, (covers.opens _ _ _ here).skipBlanks_eq before, given,
            Option.bind_eq_bind, Option.bind_some, skipBlanks_of_mark (by decide) after, expect?,
            if_neg notComma.symm, if_true, further limit (by omega)]

theorem Separated.exists_opens {items : List α} (separated : Separated rule close text items rest)
    (opens : ∀ text a rest, rule text a rest → Opens text) :
    ∃ inner, Blanks text inner ∧ Opens inner := by
  cases separated with
  | last before here => exact ⟨_, before, opens _ _ _ here⟩
  | more before here => exact ⟨_, before, opens _ _ _ here⟩

theorem Covers.bracketed {items : List α} (covers : Covers size read rule)
    (closes : close ∈ [']', '\x7d']) (separated : Separated rule close text items rest)
    (within : text.length ≤ size) : readBracketed read close text = some (items, rest) := by
  obtain ⟨inner, before, opens⟩ := separated.exists_opens covers.opens
  rw [readBracketed, opens.skipBlanks_eq before, opens.expect?_eq_none closes]
  exact (covers.separated closes separated within).2 _ (Nat.le_refl _)

theorem readBracketed_nil (closes : close ∈ [']', '\x7d']) (gap : Blanks text (close :: rest)) :
    readBracketed read close text = some ([], rest) := by
  have isMark : close ∈ [',', ':', ']', '\x7d'] :=
    List.mem_cons_of_mem _ (List.mem_cons_of_mem _ closes)
  simp only [readBracketed, skipBlanks_of_mark isMark gap, expect?, if_true]

theorem Covers.named (covers : Covers size read rule) :
    Covers size (readNamed read) (Named rule) where
  opens text member rest named := by
    cases named with
    | named => exact opens_cons (.inl List.mem_cons_self) _
  length_lt text member rest within named := by
    cases named with
    | named string before after here =>
        have length := string.length_lt
        have length' := before.length_le
        have length'' := after.length_le
        simp only [List.length_cons] at within length' ⊢
        have shorter := covers.length_lt _ _ _ (by omega) here
        omega
  read_eq text member rest within named ends := by
    cases named with
    | named string before after here =>
        have length := string.length_lt
        have length' := before.length_le
        have length'' := after.length_le
        simp only [List.length_cons] at within length'
        have given := covers.read_eq _ _ _ (by omega) here ends
        simp only [readNamed, expect?, if_true, Option.bind_eq_bind, Option.bind_some,
          string.readString_eq (Nat.le_refl _), skipBlanks_of_mark (by decide) before,
          (covers.opens _ _ _ here).skipBlanks_eq after, given]

theorem Spells.opens (spells : Spells text document rest) : Opens text := by
  cases spells with
  | word member =>
      obtain ⟨c, others, rfl, isStart⟩ := exists_head_of_mem_words member
      exact opens_cons (.inl (List.mem_append_right ['"', '[', '\x7b', '-'] isStart)) _
  | number isNumeral =>
      obtain ⟨c, others, rfl, sign | digit⟩ := isNumeral.exists_head
      · exact opens_cons (.inl (by simp [sign])) _
      · exact opens_cons (.inr digit) _
  | string | emptyArray | array | emptyObject | object => exact opens_cons (.inl (by decide)) _

theorem Spells.ne_nil (spells : Spells text document rest) : text ≠ [] := by
  cases spells with
  | word member =>
      obtain ⟨c, others, rfl, -⟩ := exists_head_of_mem_words member
      exact List.cons_ne_nil _ _
  | number isNumeral =>
      obtain ⟨c, others, rfl, -⟩ := isNumeral.exists_head
      exact List.cons_ne_nil _ _
  | string | emptyArray | array | emptyObject | object => exact List.cons_ne_nil _ _

theorem readValue_of_word (member : (word, document) ∈ words) (depth : Nat) :
    readValue (depth + 1) (word ++ rest) = some (document, rest) := by
  rw [← readWord_eq member]
  obtain ⟨c, others, rfl, isStart⟩ := exists_head_of_mem_words member
  have apart : ∀ c ∈ ['n', 't', 'f'],
      c ≠ '"' ∧ c ≠ '[' ∧ c ≠ '\x7b' ∧ ¬ (c = '-' ∨ c.isDigit = true) :=
    List.all_iff_forall_prop.mp (by decide)
  obtain ⟨mark, bracket, brace, number⟩ := apart c isStart
  rw [List.cons_append, readValue, if_neg mark, if_neg bracket, if_neg brace, if_neg number]

theorem readValue_of_isNumeral (isNumeral : IsNumeral numeral) (ends : Ends rest) (depth : Nat) :
    readValue (depth + 1) (numeral ++ rest) = some (.number (.ofList numeral), rest) := by
  rw [← isNumeral.readNumeral_eq ends]
  obtain ⟨c, others, rfl, start⟩ := isNumeral.exists_head
  have apart : ∀ c ∈ ['"', '[', '\x7b'], c ≠ '-' ∧ c.isDigit = false :=
    List.all_iff_forall_prop.mp (by decide)
  have other (mark : Char) (member : mark ∈ ['"', '[', '\x7b']) : c ≠ mark := by
    rintro rfl
    rcases start with sign | digit
    · exact (apart c member).1 sign
    · rw [(apart c member).2] at digit
      cases digit
  rw [List.cons_append, readValue, if_neg (other '"' (by decide)), if_neg (other '[' (by decide)),
    if_neg (other '\x7b' (by decide)), if_pos start]

/-- What is behind a value is shorter, and values are read. -/
theorem covers_readValue (depth : Nat) : Covers depth (readValue depth) Spells := by
  -- The parts of a value stand behind its bracket, so one level less is enough for them.
  induction depth with
  | zero =>
      have notEmpty {text rest : List Char} {document : Document}
          (within : text.length ≤ 0) : ¬ Spells text document rest := fun spells =>
        spells.ne_nil (List.length_eq_zero_iff.mp (Nat.le_zero.mp within))
      exact ⟨fun _ _ _ => Spells.opens, fun _ _ _ within spells => absurd spells (notEmpty within),
        fun _ _ _ within spells => absurd spells (notEmpty within)⟩
  | succ depth ih =>
      refine ⟨fun _ _ _ => Spells.opens, fun text document rest within spells => ?_,
        fun text document rest within spells ends => ?_⟩
      · cases spells with
        | word member =>
            obtain ⟨c, others, rfl, -⟩ := exists_head_of_mem_words member
            simp only [List.length_append, List.length_cons]
            omega
        | number isNumeral =>
            obtain ⟨c, others, rfl, -⟩ := isNumeral.exists_head
            simp only [List.length_append, List.length_cons]
            omega
        | string inside => exact Nat.lt_succ_of_lt inside.length_lt
        | emptyArray gap | emptyObject gap =>
            exact Nat.lt_succ_of_lt gap.length_le
        | array inside =>
            exact Nat.lt_succ_of_lt
              (ih.separated (by decide) inside (Nat.le_of_succ_le_succ within)).1
        | object inside =>
            exact Nat.lt_succ_of_lt
              (ih.named.separated (by decide) inside (Nat.le_of_succ_le_succ within)).1
      · cases spells with
        | word member => exact readValue_of_word member depth
        | number isNumeral => exact readValue_of_isNumeral isNumeral ends depth
        | string inside =>
            simp only [readValue, if_true, inside.readString_eq (Nat.le_refl _), Option.map_some]
        | emptyArray gap =>
            simp [readValue, readBracketed_nil (by decide) gap]
        | emptyObject gap =>
            simp [readValue, readBracketed_nil (by decide) gap]
        | array inside =>
            have given := ih.bracketed (by decide) inside (Nat.le_of_succ_le_succ within)
            simp [readValue, given]
        | object inside =>
            have given := ih.named.bracketed (by decide) inside (Nat.le_of_succ_le_succ within)
            simp [readValue, given]

end Complete

/-- **Reading is what the grammar says.** A document is read exactly from the texts that say
it. -/
theorem read?_eq_some_iff {text : String} {document : Document} :
    read? text = some document ↔ IsText text document := by
  simp only [read?, Option.bind_eq_bind, Option.bind_eq_some_iff, Option.ite_none_right_eq_some]
  refine ⟨?_, ?_⟩
  · rintro ⟨⟨document, behind⟩, here, done, ⟨⟩⟩
    have after := blanks_skipBlanks behind
    rw [done] at after
    exact ⟨_, behind, blanks_skipBlanks _, follows_readValue _ _ _ _ here, after⟩
  · rintro ⟨inner, behind, before, here, after⟩
    have within := before.length_le
    rw [String.length_toList] at within
    refine ⟨(document, behind), ?_, after.skipBlanks_eq nofun, rfl⟩
    rw [here.opens.skipBlanks_eq before]
    exact (covers_readValue _).read_eq _ _ _ within here (after.ends nofun)

/-- No text says two documents. -/
theorem IsText.unique {text : String} {document other : Document} (isText : IsText text document)
    (isText' : IsText text other) : document = other := by
  rw [← read?_eq_some_iff] at isText isText'
  exact Option.some.inj (isText.symm.trans isText')

/-- A comma has to be followed by something. -/
example :
    read? " [ -1.50e+2,\t\x7b\"a\" : null\x7d ]\n" =
      some (.array [.number "-1.50e+2", .object [("a", .null)]]) ∧ read? "[1,]" = none := by
  cbv

end DataFormula.Json
