import DataFormula.Proofs.Json.Grammar

/-!
# Numbers in JSON texts

Whether a text is a number can be decided from left to right (`Json.isNumeral_iff`).
-/

namespace DataFormula.Json

open Lexeme (IsRun)

/-- A text without the mark in front of it, if there is one. -/
def dropSign (marks : List Char) : List Char → List Char
  | [] => []
  | c :: text => if c ∈ marks then text else c :: text

/-- Whether a text is a run of digits. -/
def isDigits (text : List Char) : Bool := !text.isEmpty && text.all Char.isDigit

/-- Whether a text is the power of ten behind a number, or nothing. -/
def isExponent : List Char → Bool
  | [] => true
  | c :: text => (c == 'e' || c == 'E') && isDigits (dropSign ['+', '-'] text)

/-- Whether a text can stand behind the whole part of a number. -/
def isTail : List Char → Bool
  | [] => true
  | c :: text =>
    if c = '.' then
      isDigits (text.takeWhile Char.isDigit) && isExponent (text.dropWhile Char.isDigit)
    else isExponent (c :: text)

/-- Whether a text is a number. -/
def isNumeral (text : List Char) : Bool :=
  let unsigned := dropSign ['-'] text
  let whole := unsigned.takeWhile Char.isDigit
  isDigits whole && (whole.head? != some '0' || whole == ['0']) &&
    isTail (unsigned.dropWhile Char.isDigit)

section Numeral

variable {marks text sign digits fraction exponent : List Char}

theorem isDigits_iff : isDigits text = true ↔ IsDigits text := by
  simp [isDigits, IsDigits]

theorem exists_sign (marks text : List Char) :
    ∃ sign, IsSign marks sign ∧ text = sign ++ dropSign marks text := by
  cases text with
  | nil => exact ⟨[], .inl rfl, rfl⟩
  | cons c text =>
      by_cases member : c ∈ marks
      · exact ⟨[c], .inr ⟨c, member, rfl⟩, by simp [dropSign, member]⟩
      · exact ⟨[], .inl rfl, by simp [dropSign, member]⟩

theorem IsSign.dropSign_eq (isSign : IsSign marks sign)
    (noDigit : ∀ c ∈ marks, c.isDigit = false) (isDigits : IsDigits digits) (rest : List Char) :
    dropSign marks (sign ++ (digits ++ rest)) = digits ++ rest := by
  rcases isSign with rfl | ⟨c, member, rfl⟩
  · obtain ⟨c, others, rfl⟩ := List.exists_cons_of_ne_nil isDigits.1
    have digit := isDigits.2 c List.mem_cons_self
    have apart : c ∉ marks := fun member => by simp [noDigit c member] at digit
    simp [dropSign, apart]
  · simp [dropSign, member]

theorem isExponent_iff : isExponent text = true ↔ IsExponent text := by
  refine ⟨fun holds => ?_, fun isExponent => ?_⟩
  · cases text with
    | nil => exact .inl rfl
    | cons mark text =>
        simp only [isExponent, Bool.and_eq_true, Bool.or_eq_true, beq_iff_eq] at holds
        obtain ⟨sign, isSign, split⟩ := exists_sign ['+', '-'] text
        exact .inr ⟨mark, sign, _, by simp [holds.1], isSign, isDigits_iff.mp holds.2,
          congrArg (mark :: ·) split⟩
  · rcases isExponent with rfl | ⟨mark, sign, digits, isMark, isSign, isDigits, rfl⟩
    · rfl
    · have digits := isSign.dropSign_eq (List.all_iff_forall_prop.mp rfl) isDigits []
      rw [List.append_nil] at digits
      simp only [List.mem_cons, List.not_mem_nil, or_false] at isMark
      simp [isExponent, isMark, digits, isDigits_iff.mpr isDigits]

/-- Behind digits there is a text that does not go on with them. -/
theorem IsDigits.isRun (isDigits : IsDigits digits)
    (stops : ∀ c ∈ text.head?, c.isDigit = false) : IsRun Char.isDigit digits text :=
  ⟨isDigits.2, stops⟩

theorem IsExponent.stops (isExponent : IsExponent exponent) :
    ∀ c ∈ exponent.head?, c.isDigit = false := by
  rcases isExponent with rfl | ⟨mark, sign, digits, isMark, -, -, rfl⟩
  · nofun
  · have each : ∀ mark ∈ ['e', 'E'], mark.isDigit = false :=
      List.all_iff_forall_prop.mp (by decide)
    rintro c ⟨⟩
    exact each _ isMark

theorem IsFraction.stops (isFraction : IsFraction fraction) (isExponent : IsExponent exponent) :
    ∀ c ∈ (fraction ++ exponent).head?, c.isDigit = false := by
  rcases isFraction with rfl | ⟨digits, -, rfl⟩
  · exact isExponent.stops
  · rintro c ⟨⟩
    rfl

theorem isTail_iff : isTail text = true ↔
    ∃ fraction exponent, text = fraction ++ exponent ∧ IsFraction fraction ∧
      IsExponent exponent := by
  refine ⟨fun holds => ?_, ?_⟩
  · cases text with
    | nil => exact ⟨[], [], rfl, .inl rfl, .inl rfl⟩
    | cons c text =>
        by_cases point : c = '.'
        · subst point
          simp only [isTail, if_true, Bool.and_eq_true] at holds
          exact ⟨'.' :: text.takeWhile Char.isDigit, text.dropWhile Char.isDigit,
            by rw [List.cons_append, List.takeWhile_append_dropWhile],
            .inr ⟨_, isDigits_iff.mp holds.1, rfl⟩, isExponent_iff.mp holds.2⟩
        · simp only [isTail, point, if_false] at holds
          exact ⟨[], c :: text, rfl, .inl rfl, isExponent_iff.mp holds⟩
  · rintro ⟨fraction, exponent, rfl, isFraction, isExponent⟩
    rcases isFraction with rfl | ⟨digits, isDigits, rfl⟩
    · rcases isExponent with rfl | ⟨mark, sign, digits, isMark, isSign, isDigits, rfl⟩
      · rfl
      · have each : ∀ mark ∈ ['e', 'E'], mark ≠ '.' :=
          List.all_iff_forall_prop.mp (by decide)
        rw [List.nil_append, isTail, if_neg (each mark isMark)]
        exact isExponent_iff.mpr (.inr ⟨mark, sign, digits, isMark, isSign, isDigits, rfl⟩)
    · have run := isDigits.isRun isExponent.stops
      rw [List.cons_append, isTail, if_pos rfl, run.takeWhile_eq, run.dropWhile_eq,
        isDigits_iff.mpr isDigits, isExponent_iff.mpr isExponent]
      rfl

theorem isNumeral_iff : isNumeral text = true ↔ IsNumeral text := by
  refine ⟨fun holds => ?_, fun isNumeral => ?_⟩
  · obtain ⟨sign, isSign, split⟩ := exists_sign ['-'] text
    simp only [isNumeral, Bool.and_eq_true, Bool.or_eq_true, bne_iff_ne, beq_iff_eq,
      ← Decidable.imp_iff_not_or] at holds
    obtain ⟨⟨isDigits, noZero⟩, isTail⟩ := holds
    obtain ⟨fraction, exponent, tail, isFraction, isExponent⟩ := isTail_iff.mp isTail
    rw [split, ← List.takeWhile_append_dropWhile (p := Char.isDigit) (l := dropSign ['-'] text),
      tail]
    exact .parts isSign ⟨isDigits_iff.mp isDigits, noZero⟩ isFraction isExponent
  · cases isNumeral with
    | @parts sign whole fraction exponent isSign isWhole isFraction isExponent =>
        have run := isWhole.1.isRun (isFraction.stops isExponent)
        have tail := isTail_iff.mpr ⟨fraction, exponent, rfl, isFraction, isExponent⟩
        have unsigned := isSign.dropSign_eq (List.all_iff_forall_prop.mp rfl) isWhole.1
        simp only [isNumeral, unsigned, run.takeWhile_eq,
          run.dropWhile_eq, tail, isDigits_iff.mpr isWhole.1, Bool.and_true, Bool.true_and,
          Bool.or_eq_true, bne_iff_ne, beq_iff_eq, ← Decidable.imp_iff_not_or]
        exact isWhole.2

instance (text : List Char) : Decidable (IsNumeral text) := decidable_of_iff _ isNumeral_iff

end Numeral

end DataFormula.Json
