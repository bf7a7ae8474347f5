import DataFormula.Lexeme

/-!
# How tokens are spelled

A text is read as gaps and lexemes. `Lexeme.IsGap` tells which texts are gaps, and
`Lexeme.Spells` which ones spell a token of some kind with some data. Both look at the
text behind them where they could go on: a name, a run of digits and a comment are as
long as they can be. Measuring a gap and reading a lexeme follow these rules
(`Lexeme.gapLength_eq_iff`, `Lexeme.read_eq_lexeme_iff`).
-/

namespace DataFormula

namespace Lexeme

open Text

/-! ## Runs -/

/-- Characters of one class, as many as there are. -/
structure IsRun (belongs : Char → Bool) (run rest : List Char) : Prop where
  all : ∀ c ∈ run, belongs c = true
  stops : ∀ c ∈ rest.head?, belongs c = false

section Run

variable {belongs : Char → Bool} {run rest : List Char}

theorem isRun_takeWhile (belongs : Char → Bool) (text : List Char) :
    IsRun belongs (text.takeWhile belongs) (text.dropWhile belongs) := by
  refine ⟨fun c member => ?_, fun c member => ?_⟩
  · exact List.all_eq_true.mp List.all_takeWhile c member
  · have stops := List.head?_dropWhile_not belongs text
    rw [Option.mem_def.mp member] at stops
    simpa using stops

theorem IsRun.takeWhile_rest (isRun : IsRun belongs run rest) : rest.takeWhile belongs = [] := by
  cases rest with
  | nil => rfl
  | cons c rest => exact List.takeWhile_cons_of_neg (by simp [isRun.stops c rfl])

theorem IsRun.takeWhile_eq (isRun : IsRun belongs run rest) :
    (run ++ rest).takeWhile belongs = run := by
  rw [List.takeWhile_append_of_pos isRun.all, isRun.takeWhile_rest, List.append_nil]

theorem IsRun.dropWhile_eq (isRun : IsRun belongs run rest) :
    (run ++ rest).dropWhile belongs = rest := by
  have both := List.takeWhile_append_dropWhile (p := belongs) (l := run ++ rest)
  rw [isRun.takeWhile_eq] at both
  exact List.append_cancel_left both

end Run

/-- A name, as long as it can be. -/
def IsName (name rest : List Char) : Prop :=
  (∃ c ∈ name.head?, isNameStart c = true) ∧ IsRun isNamePart name rest

/-- A number of decimal digits, as long as it can be. -/
def IsNumeral (digits rest : List Char) : Prop :=
  digits ≠ [] ∧ IsRun Char.isDigit digits rest

/-! ## Gaps -/

/-- Blanks and comments in front of a text. A comment is a `#` and what is left of its
line; it ends before a line feed or at the end of the text. -/
inductive IsGap : (gap rest : List Char) → Prop where
  | nil {rest : List Char} : IsGap [] rest
  | blank {c : Char} {gap rest : List Char} (blank : isBlank c = true) (others : IsGap gap rest) :
      IsGap (c :: gap) rest
  | comment {line gap rest : List Char} (sameLine : ∀ c ∈ line, c ≠ '\n')
      (stops : ∀ c ∈ (gap ++ rest).head?, c = '\n') (others : IsGap gap rest) :
      IsGap ('#' :: line ++ gap) rest

/-- Nothing in front of a text belongs to a gap. -/
def NoGap (text : List Char) : Prop := ∀ c ∈ text.head?, isBlank c = false ∧ c ≠ '#'

theorem gapLength_of_noGap {text : List Char} (noGap : NoGap text) : gapLength false text = 0 := by
  cases text with
  | nil => rfl
  | cons c text =>
      obtain ⟨blank, hash⟩ := noGap c rfl
      simp [gapLength, blank, hash]

/-- Behind a comment measuring goes on as if there had been none. -/
theorem gapLength_true_append {line rest : List Char} (sameLine : ∀ c ∈ line, c ≠ '\n')
    (stops : ∀ c ∈ rest.head?, c = '\n') :
    gapLength true (line ++ rest) = line.length + gapLength false rest := by
  induction line with
  | nil =>
      cases rest with
      | nil => rfl
      | cons c rest =>
          obtain rfl : c = '\n' := stops c rfl
          have blank : isBlank '\n' = true := by decide
          simp [gapLength, blank]
  | cons c line ih =>
      obtain ⟨inside, sameLine⟩ := List.forall_mem_cons.mp sameLine
      have further : (c != '\n') = true := by simpa using inside
      rw [List.cons_append, gapLength, if_pos rfl, further, ih sameLine, List.length_cons]
      omega

/-- A gap in front of a text that does not go on with it is measured in full. -/
theorem IsGap.gapLength_eq {gap rest : List Char} (isGap : IsGap gap rest) (noGap : NoGap rest) :
    gapLength false (gap ++ rest) = gap.length := by
  induction isGap with
  | nil => exact gapLength_of_noGap noGap
  | blank blank _ ih => simp [gapLength, blank, ih noGap]
  | @comment line gap rest sameLine stops _ ih =>
      have notBlank : isBlank '#' = false := by decide
      simp only [List.cons_append, List.append_assoc, gapLength, Bool.false_eq_true, if_false,
        notBlank, if_true]
      rw [gapLength_true_append sameLine stops, ih noGap, List.length_cons, List.length_append]

/-- Every text starts with a gap, perhaps an empty one, that does not go on; and what
is left of a line with such a gap, if the text starts inside a comment. -/
theorem exists_gap (text : List Char) :
    (∃ gap rest, text = gap ++ rest ∧ IsGap gap rest ∧ NoGap rest) ∧
      ∃ line gap rest, text = line ++ (gap ++ rest) ∧ (∀ c ∈ line, c ≠ '\n') ∧
        (∀ c ∈ (gap ++ rest).head?, c = '\n') ∧ IsGap gap rest ∧ NoGap rest := by
  -- Both at once: a `#` needs what is known inside a comment, and a line feed ends one.
  induction text with
  | nil => exact ⟨⟨[], [], rfl, .nil, nofun⟩, [], [], [], rfl, nofun, nofun, .nil, nofun⟩
  | cons c text ih =>
      obtain ⟨⟨gap, rest, split, isGap, noGap⟩, line, others, left, split', sameLine, stops,
        isGap', noGap'⟩ := ih
      refine ⟨?_, ?_⟩
      · by_cases blank : isBlank c = true
        · exact ⟨c :: gap, rest, by simp [split], .blank blank isGap, noGap⟩
        · by_cases hash : c = '#'
          · subst hash
            exact ⟨'#' :: line ++ others, left, by simp [split'],
              .comment sameLine stops isGap', noGap'⟩
          · refine ⟨[], c :: text, rfl, .nil, fun other member => ?_⟩
            obtain rfl : c = other := Option.some.inj member
            exact ⟨Bool.eq_false_iff.mpr blank, hash⟩
      · by_cases newline : c = '\n'
        · subst newline
          refine ⟨[], '\n' :: gap, rest, by simp [split], nofun, fun other member => ?_,
            .blank (by decide) isGap, noGap⟩
          exact (Option.some.inj member).symm
        · exact ⟨c :: line, others, left, by simp [split'],
            List.forall_mem_cons.mpr ⟨newline, sameLine⟩, stops, isGap', noGap'⟩

/-- **Gaps are measured in full.** -/
theorem gapLength_eq_iff {gap rest : List Char} :
    gapLength false (gap ++ rest) = gap.length ↔ IsGap gap rest ∧ NoGap rest := by
  refine ⟨fun measured => ?_, fun ⟨isGap, noGap⟩ => isGap.gapLength_eq noGap⟩
  obtain ⟨⟨other, left, split, isGap, noGap⟩, -⟩ := exists_gap (gap ++ rest)
  rw [split, isGap.gapLength_eq noGap] at measured
  obtain ⟨rfl, rfl⟩ := List.append_inj split measured.symm
  exact ⟨isGap, noGap⟩

/-! ## String literals -/

/-- The letters that a backslash may stand before, and what they mean then. -/
def escapes : List (Char × Char) :=
  [('n', '\n'), ('t', '\t'), ('r', '\r'), ('"', '"'), ('\'', '\''), ('\\', '\\')]

/-- How characters are written between two quotes of a kind: as they are, if they are
neither that quote nor a backslash, or as one of the escapes. -/
inductive Writes (quote : Char) : (data written : List Char) → Prop where
  | nil : Writes quote [] []
  | plain {c : Char} {data written : List Char} (notQuote : c ≠ quote) (notEscape : c ≠ '\\')
      (others : Writes quote data written) : Writes quote (c :: data) (c :: written)
  | escape {letter meant : Char} {data written : List Char} (escape : (letter, meant) ∈ escapes)
      (others : Writes quote data written) :
      Writes quote (meant :: data) ('\\' :: letter :: written)

theorem unescape?_eq_some_iff {letter meant : Char} :
    Quoted.unescape? letter = some meant ↔ (letter, meant) ∈ escapes := by
  refine ⟨?_, ?_⟩
  · intro known
    unfold Quoted.unescape? at known
    grind [escapes]
  · intro member
    simp only [escapes, List.mem_cons, Prod.mk.injEq, List.not_mem_nil, or_false] at member
    rcases member with ⟨rfl, rfl⟩ | ⟨rfl, rfl⟩ | ⟨rfl, rfl⟩ | ⟨rfl, rfl⟩ | ⟨rfl, rfl⟩ |
      ⟨rfl, rfl⟩ <;> rfl

/-- Pushing a character onto a scan closes it exactly if it was closed. -/
theorem push_eq_closed_iff {c : Char} {width length : Nat} {scan : Quoted.Scan}
    {data : List Char} :
    scan.push c width = .closed data length ↔
      ∃ inner short, scan = .closed inner short ∧ data = c :: inner ∧ length = short + width := by
  refine ⟨?_, ?_⟩
  · intro closed
    cases scan with
    | closed inner short =>
        cases closed
        exact ⟨inner, short, rfl, rfl, rfl⟩
    | _ => cases closed
  · intro pushed
    obtain ⟨inner, short, rfl, rfl, rfl⟩ := pushed
    rfl

/-- **String literals end at their quote.** A literal is closed behind the characters
that are written up to the first quote of its kind that no backslash precedes. -/
theorem scan_eq_closed_iff {quote : Char} (notEscape : quote ≠ '\\') {text data : List Char}
    {length : Nat} :
    Quoted.scan quote text = .closed data length ↔
      ∃ written rest, text = written ++ quote :: rest ∧ length = written.length + 1 ∧
        Writes quote data written := by
  refine ⟨?_, ?_⟩
  · intro closed
    fun_induction Quoted.scan quote text generalizing data length with
    | case1 => cases closed
    | case2 text =>
        cases closed
        exact ⟨[], text, rfl, rfl, .nil⟩
    | case3 => cases closed
    | case4 letter text meant known _ ih =>
        obtain ⟨inner, short, inside, rfl, rfl⟩ := push_eq_closed_iff.mp closed
        obtain ⟨written, rest, rfl, rfl, writes⟩ := ih inside
        exact ⟨'\\' :: letter :: written, rest, rfl, rfl,
          .escape (unescape?_eq_some_iff.mp known) writes⟩
    | case5 => cases closed
    | case6 c text notQuote plain ih =>
        obtain ⟨inner, short, inside, rfl, rfl⟩ := push_eq_closed_iff.mp closed
        obtain ⟨written, rest, rfl, rfl, writes⟩ := ih inside
        exact ⟨c :: written, rest, rfl, rfl, .plain notQuote plain writes⟩
  · intro read
    obtain ⟨written, rest, rfl, rfl, writes⟩ := read
    induction writes with
    | nil => rw [List.nil_append, Quoted.scan.eq_def]; simp
    | @plain c data written notQuote plain _ ih =>
        rw [List.cons_append, Quoted.scan.eq_def]
        simp only [notQuote, plain, if_false, ih, Quoted.Scan.push, List.length_cons]
    | @escape letter meant data written known _ ih =>
        have known := unescape?_eq_some_iff.mpr known
        rw [List.cons_append, List.cons_append, Quoted.scan.eq_def]
        simp only [Ne.symm notEscape, if_false, if_true, known, ih, Quoted.Scan.push,
          List.length_cons]

/-! ## Lexemes -/

/-- The texts that spell a token in front of a text. Behind a point, which `key` says,
a number is no more than its first digits. -/
inductive Spells (key : Bool) :
    (kind : TokenKind) → (data lexeme rest : List Char) → Prop where
  | symbol {c : Char} {rest : List Char} (member : c ∈ punctuation) :
      Spells key .symbol [c] [c] rest
  | identifier {name rest : List Char} (isName : IsName name rest) :
      Spells key .identifier name name rest
  | namedReference {name rest : List Char} (isName : IsName name rest) :
      Spells key .reference name ('$' :: name) rest
  | numberedReference {digits rest : List Char} (isNumeral : IsNumeral digits rest) :
      Spells key .reference digits ('$' :: digits) rest
  | integer {digits rest : List Char} (isNumeral : IsNumeral digits rest)
      (whole : key = false → ∀ digit further, rest = '.' :: digit :: further →
        digit.isDigit = false) :
      Spells key .integer digits digits rest
  | float {whole fraction rest : List Char} (noKey : key = false)
      (isWhole : IsNumeral whole ('.' :: fraction ++ rest)) (isFraction : IsNumeral fraction rest) :
      Spells key .float (whole ++ '.' :: fraction) (whole ++ '.' :: fraction) rest
  | string {quote : Char} {data written rest : List Char} (isQuote : quote = '"' ∨ quote = '\'')
      (writes : Writes quote data written) :
      Spells key .string data (quote :: written ++ [quote]) rest

/-! ## The first character tells the class of a lexeme -/

theorem isNameStart_of_isDigit {c : Char} (digit : c.isDigit = true) : isNameStart c = false := by
  have bounds : 48 ≤ c.toNat ∧ c.toNat ≤ 57 := by
    simpa [Char.isDigit, UInt32.le_iff_toNat_le] using digit
  have notAlphabetic : isAlphabetic c = false := by
    have before : c.toNat < 0x41 := by omega
    exact if_pos before
  have notLine : c ≠ '_' := by
    intro same
    subst same
    cases digit
  simp [isNameStart, notAlphabetic, notLine]

theorem isBlank_of_isDigit {c : Char} (digit : c.isDigit = true) : isBlank c = false := by
  have bounds : 48 ≤ c.toNat ∧ c.toNat ≤ 57 := by
    simpa [Char.isDigit, UInt32.le_iff_toNat_le] using digit
  rw [Bool.eq_false_iff, isBlank, Ne, CodeRanges.holds_iff blanks_increasing]
  intro inside
  obtain ⟨range, member, low, high⟩ := inside
  have apart : ∀ range ∈ blanks, 57 < range.1 ∨ range.2 < 48 := by decide
  have := apart range member
  omega

theorem ne_hash_of_isDigit {c : Char} (digit : c.isDigit = true) : c ≠ '#' := by
  intro hash
  subst hash
  cases digit

/-- No blank is alphabetic. -/
theorem isNameStart_of_isBlank {c : Char} (blank : isBlank c = true) : isNameStart c = false := by
  obtain ⟨range, member, low, high⟩ := (CodeRanges.holds_iff blanks_increasing).mp blank
  have apart : ∀ range ∈ blanks, ∀ more ≤ range.2 - range.1,
      alphabetics.holds (range.1 + more) = false := by decide +kernel
  have notAlphabetic : isAlphabetic c = false := by
    have here := apart range member (c.toNat - range.1) (by omega)
    rwa [Nat.add_sub_cancel' low] at here
  have notLine : c ≠ '_' := by
    intro same
    subst same
    revert blank
    decide
  simp [isNameStart, notAlphabetic, notLine]

theorem isDigit_of_isNameStart {c : Char} (start : isNameStart c = true) : c.isDigit = false := by
  rw [Bool.eq_false_iff]
  intro digit
  rw [isNameStart_of_isDigit digit] at start
  cases start

theorem isBlank_of_isNameStart {c : Char} (start : isNameStart c = true) : isBlank c = false := by
  rw [Bool.eq_false_iff]
  intro blank
  rw [isNameStart_of_isBlank blank] at start
  cases start

/-- The characters that open a lexeme of their own, which no name and no number starts
with. -/
theorem opening_apart {c : Char} (opens : c ∈ ['$', '"', '\'']) :
    isNameStart c = false ∧ c.isDigit = false ∧ isBlank c = false ∧ c ≠ '#' := by
  have each : ['$', '"', '\''].all (fun c => decide (isNameStart c = false ∧ c.isDigit = false ∧
    isBlank c = false ∧ c ≠ '#')) = true := by decide
  exact of_decide_eq_true (List.all_eq_true.mp each c opens)

theorem punctuation_apart {c : Char} (member : c ∈ punctuation) :
    c ∉ ['$', '"', '\''] ∧ isNameStart c = false ∧ c.isDigit = false ∧ isBlank c = false ∧
      c ≠ '#' := by
  have each : punctuation.all (fun c => decide (c ∉ ['$', '"', '\''] ∧ isNameStart c = false ∧
    c.isDigit = false ∧ isBlank c = false ∧ c ≠ '#')) = true := by decide
  exact of_decide_eq_true (List.all_eq_true.mp each c member)

theorem IsName.exists_head {name rest : List Char} (isName : IsName name rest) :
    ∃ c others, name = c :: others ∧ isNameStart c = true := by
  obtain ⟨⟨c, first, start⟩, -⟩ := isName
  obtain ⟨others, rfl⟩ := List.head?_eq_some_iff.mp first
  exact ⟨c, others, rfl, start⟩

theorem IsNumeral.exists_head {digits rest : List Char} (isNumeral : IsNumeral digits rest) :
    ∃ c others, digits = c :: others ∧ c.isDigit = true := by
  obtain ⟨c, others, rfl⟩ := List.exists_cons_of_ne_nil isNumeral.1
  exact ⟨c, others, rfl, isNumeral.2.all c List.mem_cons_self⟩

/-! ## The first character tells what is read -/

section Dispatch

variable {key : Bool} {c : Char} {text : List Char}

theorem read_of_isQuote (isQuote : c = '"' ∨ c = '\'') : read key c text = readString c text := by
  have notDollar : c ≠ '$' := by
    rcases isQuote with rfl | rfl <;> decide
  rw [read, if_neg notDollar, if_pos isQuote]

/-- Reading is not about references and string literals if nothing opens one. -/
theorem read_of_not_opening (opening : c ∉ ['$', '"', '\'']) :
    read key c text =
      if c.isDigit then readNumber key (c :: text)
      else if isNameStart c then
        .lexeme .identifier ((c :: text).takeWhile isNamePart)
          ((c :: text).takeWhile isNamePart).length
      else if punctuation.contains c then .lexeme .symbol [c] 1
      else .failure (.unexpectedCharacter c) 0 0 := by
  simp only [List.mem_cons, List.not_mem_nil, or_false, not_or] at opening
  rw [read, if_neg opening.1, if_neg (not_or.mpr opening.2)]

theorem read_of_isDigit (digit : c.isDigit = true) :
    read key c text = readNumber key (c :: text) := by
  have opening : c ∉ ['$', '"', '\''] := by
    intro opens
    rw [(opening_apart opens).2.1] at digit
    cases digit
  rw [read_of_not_opening opening, if_pos digit]

theorem read_of_isNameStart (start : isNameStart c = true) :
    read key c text = .lexeme .identifier ((c :: text).takeWhile isNamePart)
      ((c :: text).takeWhile isNamePart).length := by
  have opening : c ∉ ['$', '"', '\''] := by
    intro opens
    rw [(opening_apart opens).1] at start
    cases start
  rw [read_of_not_opening opening, isDigit_of_isNameStart start, if_neg Bool.false_ne_true,
    if_pos start]

theorem read_of_punctuation (member : c ∈ punctuation) :
    read key c text = .lexeme .symbol [c] 1 := by
  obtain ⟨opening, start, digit, -⟩ := punctuation_apart member
  rw [read_of_not_opening opening, digit, start, if_neg Bool.false_ne_true,
    if_neg Bool.false_ne_true, if_pos (List.contains_iff_mem.mpr member)]

/-- A character that opens no lexeme is unexpected. -/
theorem read_of_unexpected (opening : c ∉ ['$', '"', '\'']) (digit : c.isDigit = false)
    (start : isNameStart c = false) (other : c ∉ punctuation) :
    read key c text = .failure (.unexpectedCharacter c) 0 0 := by
  rw [read_of_not_opening opening, digit, start, if_neg Bool.false_ne_true,
    if_neg Bool.false_ne_true, if_neg (by simpa using other)]

end Dispatch

/-! ## Reading a lexeme -/

section Read

variable {key : Bool} {kind : TokenKind} {text data lexeme rest : List Char} {length : Nat}

theorem isName_takeWhile {c : Char} (text : List Char) (start : isNameStart c = true) :
    IsName ((c :: text).takeWhile isNamePart) ((c :: text).dropWhile isNamePart) := by
  refine ⟨⟨c, ?_, start⟩, isRun_takeWhile isNamePart _⟩
  rw [List.takeWhile_cons_of_pos (isNamePart_of_isNameStart start)]
  rfl

theorem isNumeral_takeWhile {c : Char} (text : List Char) (digit : c.isDigit = true) :
    IsNumeral ((c :: text).takeWhile Char.isDigit) ((c :: text).dropWhile Char.isDigit) := by
  refine ⟨?_, isRun_takeWhile Char.isDigit _⟩
  rw [List.takeWhile_cons_of_pos digit]
  exact List.cons_ne_nil _ _

theorem readReference_of_isName (isName : IsName data rest) :
    readReference (data ++ rest) = .lexeme .reference data (data.length + 1) := by
  have taken := isName.2.takeWhile_eq
  obtain ⟨c, others, rfl, start⟩ := isName.exists_head
  rw [List.cons_append] at taken ⊢
  simp only [readReference, start, if_true, taken]

theorem readReference_of_isNumeral (isNumeral : IsNumeral data rest) :
    readReference (data ++ rest) = .lexeme .reference data (data.length + 1) := by
  have taken := isNumeral.2.takeWhile_eq
  obtain ⟨c, others, rfl, digit⟩ := isNumeral.exists_head
  rw [List.cons_append] at taken ⊢
  simp only [readReference, isNameStart_of_isDigit digit, digit, Bool.false_eq_true, if_false,
    if_true, taken]

theorem readString_of_writes {quote : Char} {written : List Char} (notEscape : quote ≠ '\\')
    (writes : Writes quote data written) :
    readString quote (written ++ quote :: rest) = .lexeme .string data (written.length + 2) := by
  have closed := (scan_eq_closed_iff notEscape).mpr ⟨written, rest, rfl, rfl, writes⟩
  simp only [readString, closed]

/-- A number is whole if no digit stands behind its point, or if it is a key. -/
theorem readNumber_of_whole (isNumeral : IsNumeral data rest)
    (whole : key = false → ∀ digit further, rest = '.' :: digit :: further →
      digit.isDigit = false) :
    readNumber key (data ++ rest) = .lexeme .integer data data.length := by
  simp only [readNumber, isNumeral.2.takeWhile_eq, isNumeral.2.dropWhile_eq]
  split
  · rename_i further
    apply if_pos
    cases key with
    | true => rfl
    | false =>
        cases further with
        | nil => rfl
        | cons digit further =>
            have notDigit := whole rfl digit further rfl
            rw [List.takeWhile_cons_of_neg (by simp [notDigit])]
            rfl
  · rfl

theorem readNumber_of_fraction {whole fraction : List Char}
    (isWhole : IsNumeral whole ('.' :: fraction ++ rest)) (isFraction : IsNumeral fraction rest) :
    readNumber false (whole ++ ('.' :: fraction ++ rest)) =
      .lexeme .float (whole ++ '.' :: fraction) (whole.length + 1 + fraction.length) := by
  have inhabited : fraction.isEmpty = false := by
    rw [Bool.eq_false_iff]
    exact fun isEmpty => isFraction.1 (List.isEmpty_iff.mp isEmpty)
  simp only [readNumber, isWhole.2.takeWhile_eq, isWhole.2.dropWhile_eq]
  simp only [List.cons_append, isFraction.2.takeWhile_eq, inhabited, Bool.or_self,
    Bool.false_eq_true, if_false]

theorem spells_of_readReference (read : readReference text = .lexeme kind data length) :
    ∃ lexeme rest, '$' :: text = lexeme ++ rest ∧ length = lexeme.length ∧
      Spells key kind data lexeme rest := by
  cases text with
  | nil => cases read
  | cons c text =>
      by_cases start : isNameStart c = true
      · have isName := isName_takeWhile text start
        have reading := readReference_of_isName isName
        rw [List.takeWhile_append_dropWhile, read] at reading
        cases reading
        refine ⟨'$' :: (c :: text).takeWhile isNamePart, (c :: text).dropWhile isNamePart, ?_, rfl,
          .namedReference isName⟩
        rw [List.cons_append, List.takeWhile_append_dropWhile]
      by_cases digit : c.isDigit = true
      · have isNumeral := isNumeral_takeWhile text digit
        have reading := readReference_of_isNumeral isNumeral
        rw [List.takeWhile_append_dropWhile, read] at reading
        cases reading
        refine ⟨'$' :: (c :: text).takeWhile Char.isDigit, (c :: text).dropWhile Char.isDigit,
          ?_, rfl, .numberedReference isNumeral⟩
        rw [List.cons_append, List.takeWhile_append_dropWhile]
      · simp only [readReference, start, digit, Bool.false_eq_true, if_false] at read
        cases read

theorem spells_of_readString {quote : Char} (isQuote : quote = '"' ∨ quote = '\'')
    (read : readString quote text = .lexeme kind data length) :
    ∃ lexeme rest, quote :: text = lexeme ++ rest ∧ length = lexeme.length ∧
      Spells key kind data lexeme rest := by
  have notEscape : quote ≠ '\\' := by
    rcases isQuote with rfl | rfl <;> decide
  unfold readString at read
  cases closed : Quoted.scan quote text with
  | closed inner width =>
      rw [closed] at read
      cases read
      obtain ⟨written, rest, rfl, rfl, writes⟩ := (scan_eq_closed_iff notEscape).mp closed
      exact ⟨quote :: written ++ [quote], rest, by simp, by simp, .string isQuote writes⟩
  | _ =>
      rw [closed] at read
      cases read

/-- A text that starts with a digit starts with a numeral. That is all of a number, or the
part of it before its point. -/
theorem exists_numeral {c : Char} (text : List Char) (key : Bool) (digit : c.isDigit = true) :
    ∃ digits behind, c :: text = digits ++ behind ∧ IsNumeral digits behind ∧
      ((key = false → ∀ digit further, behind = '.' :: digit :: further →
          digit.isDigit = false) ∨
        (key = false ∧ ∃ fraction rest, behind = '.' :: fraction ++ rest ∧
          IsNumeral fraction rest)) := by
  have split := List.takeWhile_append_dropWhile (p := Char.isDigit) (l := c :: text)
  refine ⟨_, _, split.symm, isNumeral_takeWhile text digit, ?_⟩
  generalize (c :: text).dropWhile Char.isDigit = behind
  by_cases whole : key = false → ∀ digit further, behind = '.' :: digit :: further →
    digit.isDigit = false
  · exact .inl whole
  · simp only [Classical.not_imp, Classical.not_forall, Bool.not_eq_false] at whole
    obtain ⟨noKey, first, further, rfl, isDigit⟩ := whole
    refine .inr ⟨noKey, _, _, ?_, isNumeral_takeWhile further isDigit⟩
    rw [List.cons_append, List.takeWhile_append_dropWhile]

theorem readNumber_ne_failure {c : Char} (digit : c.isDigit = true)
    {cause : LexicalCause} {place stop : Nat} :
    readNumber key (c :: text) ≠ .failure cause place stop := by
  obtain ⟨digits, behind, split, isNumeral, whole | ⟨rfl, fraction, rest, rfl, isFraction⟩⟩ :=
    exists_numeral text key digit
  · rw [split, readNumber_of_whole isNumeral whole]
    nofun
  · rw [split, readNumber_of_fraction isNumeral isFraction]
    nofun

theorem spells_of_readNumber {c : Char} (digit : c.isDigit = true)
    (read : readNumber key (c :: text) = .lexeme kind data length) :
    ∃ lexeme rest, c :: text = lexeme ++ rest ∧ length = lexeme.length ∧
      Spells key kind data lexeme rest := by
  obtain ⟨digits, behind, split, isNumeral, whole | ⟨noKey, fraction, rest, rfl, isFraction⟩⟩ :=
    exists_numeral text key digit
  · rw [split, readNumber_of_whole isNumeral whole] at read
    cases read
    exact ⟨data, behind, split, rfl, .integer isNumeral whole⟩
  · subst noKey
    rw [split, readNumber_of_fraction isNumeral isFraction] at read
    cases read
    exact ⟨digits ++ '.' :: fraction, rest, by simpa using split, by simp; omega,
      .float rfl isNumeral isFraction⟩

/-- What is read is spelled at the head of the text. -/
theorem spells_of_read {c : Char} (result : read key c text = .lexeme kind data length) :
    ∃ lexeme rest, c :: text = lexeme ++ rest ∧ length = lexeme.length ∧
      Spells key kind data lexeme rest := by
  by_cases dollar : c = '$'
  · subst dollar
    exact spells_of_readReference result
  by_cases isQuote : c = '"' ∨ c = '\''
  · rw [read_of_isQuote isQuote] at result
    exact spells_of_readString isQuote result
  by_cases digit : c.isDigit = true
  · rw [read_of_isDigit digit] at result
    exact spells_of_readNumber digit result
  by_cases start : isNameStart c = true
  · rw [read_of_isNameStart start] at result
    cases result
    exact ⟨_, _, List.takeWhile_append_dropWhile.symm, rfl,
      .identifier (isName_takeWhile text start)⟩
  by_cases member : c ∈ punctuation
  · rw [read_of_punctuation member] at result
    cases result
    exact ⟨[c], text, rfl, rfl, .symbol member⟩
  · have opening : c ∉ ['$', '"', '\''] := by
      simpa [not_or] using And.intro dollar isQuote
    rw [read_of_unexpected opening (Bool.eq_false_iff.mpr digit) (Bool.eq_false_iff.mpr start)
      member] at result
    cases result

/-- The head of a lexeme, which is not in a gap. -/
theorem Spells.head (spells : Spells key kind data lexeme rest) :
    ∃ c others, lexeme = c :: others ∧ isBlank c = false ∧ c ≠ '#' := by
  have hashStart : isNameStart '#' = false := by decide
  cases spells with
  | symbol member => exact ⟨_, [], rfl, (punctuation_apart member).2.2.2⟩
  | identifier isName =>
      obtain ⟨c, others, rfl, start⟩ := isName.exists_head
      refine ⟨c, others, rfl, isBlank_of_isNameStart start, ?_⟩
      intro hash
      rw [hash, hashStart] at start
      cases start
  | namedReference => exact ⟨'$', _, rfl, (opening_apart List.mem_cons_self).2.2⟩
  | numberedReference => exact ⟨'$', _, rfl, (opening_apart List.mem_cons_self).2.2⟩
  | integer isNumeral =>
      obtain ⟨c, others, rfl, digit⟩ := isNumeral.exists_head
      exact ⟨c, others, rfl, isBlank_of_isDigit digit, ne_hash_of_isDigit digit⟩
  | float _ isWhole _ =>
      obtain ⟨c, others, rfl, digit⟩ := isWhole.exists_head
      exact ⟨c, _, rfl, isBlank_of_isDigit digit, ne_hash_of_isDigit digit⟩
  | @string quote _ written _ isQuote _ =>
      have opens : quote ∈ ['$', '"', '\''] := by
        rcases isQuote with rfl | rfl <;> simp
      exact ⟨quote, written ++ [quote], rfl, (opening_apart opens).2.2⟩

/-- A lexeme ends the gap before it. -/
theorem Spells.noGap (spells : Spells key kind data lexeme rest) : NoGap (lexeme ++ rest) := by
  obtain ⟨c, others, rfl, apart⟩ := spells.head
  intro first member
  cases member
  exact apart

/-- A lexeme at the head of a text is read, and the text behind it is not touched. -/
theorem Spells.read_eq (spells : Spells key kind data lexeme rest) :
    ∃ c text, lexeme ++ rest = c :: text ∧
      read key c text = .lexeme kind data lexeme.length := by
  cases spells with
  | symbol member => exact ⟨_, rest, rfl, read_of_punctuation member⟩
  | identifier isName =>
      have taken := isName.2.takeWhile_eq
      obtain ⟨c, others, rfl, start⟩ := isName.exists_head
      rw [List.cons_append] at taken
      refine ⟨c, others ++ rest, rfl, ?_⟩
      rw [read_of_isNameStart start, taken]
  | namedReference isName => exact ⟨'$', _, rfl, readReference_of_isName isName⟩
  | numberedReference isNumeral => exact ⟨'$', _, rfl, readReference_of_isNumeral isNumeral⟩
  | integer isNumeral whole =>
      have reading := readNumber_of_whole isNumeral whole
      obtain ⟨c, others, rfl, digit⟩ := isNumeral.exists_head
      refine ⟨c, others ++ rest, rfl, ?_⟩
      rw [read_of_isDigit digit]
      exact reading
  | @float whole fraction _ noKey isWhole isFraction =>
      have reading := readNumber_of_fraction isWhole isFraction
      obtain ⟨c, others, rfl, digit⟩ := isWhole.exists_head
      refine ⟨c, others ++ ('.' :: fraction ++ rest), by simp, ?_⟩
      rw [read_of_isDigit digit, noKey]
      exact reading.trans (by simp; omega)
  | @string quote _ written _ isQuote writes =>
      have notEscape : quote ≠ '\\' := by
        rcases isQuote with rfl | rfl <;> decide
      refine ⟨quote, written ++ quote :: rest, by simp, ?_⟩
      rw [read_of_isQuote isQuote, readString_of_writes notEscape writes]
      simp

/-- **Lexemes are read as they are spelled.** -/
theorem read_eq_lexeme_iff {c : Char} :
    read key c text = .lexeme kind data length ↔
      ∃ lexeme rest, c :: text = lexeme ++ rest ∧ length = lexeme.length ∧
        Spells key kind data lexeme rest := by
  refine ⟨spells_of_read, fun spelled => ?_⟩
  obtain ⟨lexeme, rest, split, rfl, spells⟩ := spelled
  obtain ⟨first, others, starts, reading⟩ := spells.read_eq
  obtain ⟨rfl, rfl⟩ := List.cons.inj (split.trans starts)
  exact reading

end Read

end Lexeme

end DataFormula
