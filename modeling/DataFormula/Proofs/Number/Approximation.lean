import DataFormula.Token
import Mathlib.Algebra.Order.Field.Basic
import Mathlib.Algebra.Order.Field.Rat
import Mathlib.Data.Bool.AllAny
import Mathlib.Tactic.FieldSimp
import Mathlib.Tactic.Linarith
import Mathlib.Tactic.Positivity
import Mathlib.Tactic.Ring

/-!
# Numerals read as decimal numbers

A number that is written in digits, perhaps with a point among them, is read exactly if its
digits fit a decimal number, and otherwise up to half a unit in the last place that is kept
(`Token.decimal_of_numeral`). The bound holds even where the mantissa rounds up to its limit
and loses one more digit: that digit is rounded from the number that was written, so no error
is added to another. Only a whole part that does not fit is no decimal number.
-/

namespace DataFormula

/-- Digits, and perhaps a point with more digits behind it. -/
structure Numeral where
  /-- The digits before the point. -/
  whole : List Char
  /-- The digits behind the point. -/
  fraction : List Char
  whole_ne_nil : whole ≠ []
  isDigit_whole : ∀ c ∈ whole, c.isDigit = true
  isDigit_fraction : ∀ c ∈ fraction, c.isDigit = true

namespace Numeral

/-- The text of a numeral, with a point exactly if there are digits behind it. -/
def text (numeral : Numeral) : String :=
  String.ofList (numeral.whole ++ if numeral.fraction.isEmpty then [] else '.' :: numeral.fraction)

/-- The number before the point. -/
def wholeNumber (numeral : Numeral) : Nat := Nat.ofDigitChars 10 numeral.whole 0

/-- All digits, read as one whole number. -/
def allDigits (numeral : Numeral) : Nat :=
  Nat.ofDigitChars 10 (numeral.whole ++ numeral.fraction) 0

/-- The number that is written. -/
def value (numeral : Numeral) : ℚ := numeral.allDigits / 10 ^ numeral.fraction.length

/-- The number before the point is too large, or would be if it were rounded at the first digit
behind the point. -/
def Overflows (numeral : Numeral) : Prop :=
  2 ^ 96 ≤ numeral.wholeNumber ∨
    numeral.wholeNumber = 2 ^ 96 - 1 ∧ ∃ c ∈ numeral.fraction.head?, 5 ≤ c.toNat - '0'.toNat

/-- A numeral starts with no sign. -/
theorem exists_head (numeral : Numeral) :
    ∃ c others, numeral.text.toList = c :: others ∧ c ≠ '-' ∧ c ≠ '+' := by
  obtain ⟨c, others, whole⟩ := List.exists_cons_of_ne_nil numeral.whole_ne_nil
  have digit : c.isDigit = true := numeral.isDigit_whole c (by simp [whole])
  refine ⟨c, _, by rw [text, String.toList_ofList, whole, List.cons_append], ?_, ?_⟩ <;>
    rintro rfl <;> exact absurd digit (by decide)

end Numeral

namespace Decimal

/-- The number that a decimal number stands for. -/
def value (number : Decimal) : ℚ :=
  (if number.negative then -1 else 1) * (number.mantissa / 10 ^ number.scale)

variable {mantissa scale next : Nat} {digits : Bool} {c : Char} {text rest : List Char}

/-! ## Digits -/

theorem digitValue_lt (digit : c.isDigit = true) : digitValue c < 10 := by
  obtain ⟨-, upper⟩ := Char.isDigit_iff_toNat.mp digit
  have nine : '9'.toNat = 57 := rfl
  have zero : '0'.toNat = 48 := rfl
  rw [digitValue]
  omega

theorem ofDigitChars_lt (all : ∀ c ∈ text, c.isDigit = true) :
    Nat.ofDigitChars 10 text 0 < 10 ^ text.length := by
  induction text with
  | nil => simp
  | cons c text ih =>
      obtain ⟨digit, others⟩ := List.forall_mem_cons.mp all
      have upper := digitValue_lt digit
      have below := ih others
      rw [digitValue] at upper
      rw [Nat.ofDigitChars_cons, Nat.ofDigitChars_eq_ofDigitChars_zero, List.length_cons,
        Nat.pow_succ]
      calc 10 ^ text.length * (10 * 0 + (c.toNat - '0'.toNat)) + Nat.ofDigitChars 10 text 0
        _ ≤ 10 ^ text.length * 9 + Nat.ofDigitChars 10 text 0 :=
          Nat.add_le_add_right (Nat.mul_le_mul_left _ (by omega)) _
        _ < 10 ^ text.length * 10 := by omega

/-- Digits only make a number larger. -/
theorem le_ofDigitChars (text : List Char) (mantissa : Nat) :
    mantissa ≤ Nat.ofDigitChars 10 text mantissa := by
  have positive : 0 < 10 ^ text.length := Nat.pow_pos (by decide)
  calc mantissa
    _ ≤ 10 ^ text.length * mantissa := Nat.le_mul_of_pos_left mantissa positive
    _ ≤ Nat.ofDigitChars 10 text mantissa := by
      rw [Nat.ofDigitChars_eq_ofDigitChars_zero]
      exact Nat.le_add_right _ _

theorem ofDigitChars_cons_eq (c : Char) (text : List Char) (mantissa : Nat) :
    Nat.ofDigitChars 10 (c :: text) mantissa =
      Nat.ofDigitChars 10 text (mantissa * 10 + digitValue c) := by
  rw [Nat.ofDigitChars_cons, Nat.mul_comm, digitValue]

theorem isTail_of_digits (all : ∀ c ∈ text, c.isDigit = true) : isTail text = true :=
  List.all_eq_true.mpr fun c member => by rw [all c member, Bool.true_or]

/-! ## Places that are kept -/

theorem readFraction_cons (digit : c.isDigit = true) (all : ∀ c ∈ text, c.isDigit = true) :
    readFraction mantissa scale digits (c :: text) =
      if scale < maxScale ∧ mantissa * 10 + digitValue c < mantissaBound then
        readFraction (mantissa * 10 + digitValue c) (scale + 1) true text
      else cut mantissa scale (digitValue c) := by
  rw [readFraction, if_pos digit, if_pos (isTail_of_digits all)]

/-- Behind the point either all digits are kept, or all up to the first one that does not fit,
at which the number is cut. -/
theorem readFraction_cases (all : ∀ c ∈ text, c.isDigit = true) (below : mantissa < mantissaBound)
    (within : scale ≤ maxScale) :
    (readFraction mantissa scale true text =
        some (Nat.ofDigitChars 10 text mantissa, scale + text.length) ∧
      Nat.ofDigitChars 10 text mantissa < mantissaBound ∧ scale + text.length ≤ maxScale) ∨
    ∃ taken c rest, text = taken ++ c :: rest ∧
      Nat.ofDigitChars 10 taken mantissa < mantissaBound ∧ scale + taken.length ≤ maxScale ∧
      ¬ (scale + taken.length < maxScale ∧
        Nat.ofDigitChars 10 taken mantissa * 10 + digitValue c < mantissaBound) ∧
      readFraction mantissa scale true text =
        cut (Nat.ofDigitChars 10 taken mantissa) (scale + taken.length) (digitValue c) := by
  induction text generalizing mantissa scale with
  | nil => exact .inl ⟨rfl, below, within⟩
  | cons c text ih =>
      obtain ⟨digit, others⟩ := List.forall_mem_cons.mp all
      rw [readFraction_cons digit others]
      by_cases fits : scale < maxScale ∧ mantissa * 10 + digitValue c < mantissaBound
      · have place (length : Nat) : scale + (length + 1) = scale + 1 + length := by omega
        rw [if_pos fits]
        rcases ih others fits.2 fits.1 with whole | ⟨taken, d, rest, split, kept⟩
        · refine .inl ?_
          rwa [ofDigitChars_cons_eq, List.length_cons, place text.length]
        · refine .inr ⟨c :: taken, d, rest, by rw [split, List.cons_append], ?_⟩
          rwa [ofDigitChars_cons_eq, List.length_cons, place taken.length]
      · rw [if_neg fits]
        exact .inr ⟨[], c, text, rfl, below, within, fits, rfl⟩

theorem cut_eq_none_iff (below : mantissa < mantissaBound) :
    cut mantissa scale next = none ↔ scale = 0 ∧ mantissa = mantissaBound - 1 ∧ 5 ≤ next := by
  unfold cut
  split
  · simp only [reduceCtorEq, false_iff]
    omega
  split
  · simp only [reduceCtorEq, false_iff]
    omega
  split
  · simp only [true_iff]
    omega
  · simp only [reduceCtorEq, false_iff]
    omega

/-- A number is cut to nothing only at its point. -/
theorem readFraction_eq_none_iff (all : ∀ c ∈ text, c.isDigit = true)
    (below : mantissa < mantissaBound) :
    readFraction mantissa 0 true text = none ↔
      mantissa = mantissaBound - 1 ∧ ∃ c ∈ text.head?, 5 ≤ digitValue c := by
  rcases readFraction_cases all below (Nat.zero_le _) with ⟨read, less, -⟩ |
    ⟨taken, c, rest, split, less, -, -, read⟩
  · rw [read]
    refine iff_of_false nofun ?_
    rintro ⟨full, c, head, large⟩
    obtain ⟨others, rfl⟩ := List.head?_eq_some_iff.mp head
    have more := le_ofDigitChars others (mantissa * 10 + digitValue c)
    rw [ofDigitChars_cons_eq] at less
    omega
  · rw [read, cut_eq_none_iff less]
    cases taken with
    | nil =>
        obtain rfl : text = c :: rest := split
        simp
    | cons d taken =>
        refine iff_of_false (by simp) ?_
        rintro ⟨full, first, head, large⟩
        obtain rfl : d = first := by simpa [split] using head
        have more := le_ofDigitChars taken (mantissa * 10 + digitValue d)
        rw [ofDigitChars_cons_eq] at less
        omega

/-- Digits that fit are all kept. -/
theorem readFraction_of_fits (all : ∀ c ∈ text, c.isDigit = true)
    (below : Nat.ofDigitChars 10 text mantissa < mantissaBound)
    (within : scale + text.length ≤ maxScale) :
    readFraction mantissa scale true text =
      some (Nat.ofDigitChars 10 text mantissa, scale + text.length) := by
  have less := Nat.lt_of_le_of_lt (le_ofDigitChars text mantissa) below
  rcases readFraction_cases all less (Nat.le_trans (Nat.le_add_right _ _) within) with
    ⟨read, -⟩ | ⟨taken, c, rest, rfl, -, -, stops, -⟩
  · exact read
  · have more := le_ofDigitChars rest (Nat.ofDigitChars 10 taken mantissa * 10 + digitValue c)
    rw [Nat.ofDigitChars_append, ofDigitChars_cons_eq] at below
    rw [List.length_append, List.length_cons] at within
    exact absurd ⟨by omega, by omega⟩ stops

/-! ## Rounding -/

/-- A number is a mantissa with some places behind the point, up to half a unit in the last
one. -/
def Approximates (number : ℚ) (mantissa scale : Nat) : Prop :=
  |number - mantissa / 10 ^ scale| ≤ 1 / 2 / 10 ^ scale

theorem approximates_iff {number : ℚ} :
    Approximates number mantissa scale ↔ |number * 10 ^ scale - mantissa| ≤ 1 / 2 := by
  have positive : (0 : ℚ) < 10 ^ scale := by positivity
  have scaled : number - mantissa / 10 ^ scale = (number * 10 ^ scale - mantissa) / 10 ^ scale := by
    field_simp
  rw [Approximates, scaled, abs_div, abs_of_pos positive, div_le_div_iff_of_pos_right positive]

theorem approximates_self (mantissa scale : Nat) :
    Approximates (mantissa / 10 ^ scale) mantissa scale := by
  rw [Approximates, sub_self, abs_zero]
  positivity

/-- A number is cut to what is nearest to it, if `next` is its digit behind the cut. -/
theorem exists_cut {number : ℚ} (below : mantissa < mantissaBound) (digit : next < 10)
    (lower : (mantissa * 10 + next : ℚ) ≤ number * 10 ^ scale * 10)
    (upper : number * 10 ^ scale * 10 < mantissa * 10 + next + 1)
    (fits : ¬ (scale = 0 ∧ mantissa = mantissaBound - 1 ∧ 5 ≤ next)) :
    ∃ kept places, cut mantissa scale next = some (kept, places) ∧ kept < mantissaBound ∧
      places ≤ scale ∧ Approximates number kept places := by
  simp only [approximates_iff, abs_le]
  by_cases down : next < 5
  · have small : (next : ℚ) ≤ 4 := by exact_mod_cast Nat.le_of_lt_succ down
    refine ⟨mantissa, scale, if_pos down, below, Nat.le_refl _, ?_, ?_⟩ <;> linarith
  have large : (5 : ℚ) ≤ next := by exact_mod_cast Nat.le_of_not_lt down
  have most : (next : ℚ) ≤ 9 := by exact_mod_cast Nat.le_of_lt_succ digit
  by_cases room : mantissa + 1 < mantissaBound
  · have cuts : cut mantissa scale next = some (mantissa + 1, scale) := by
      rw [cut, if_neg down, if_pos room]
    refine ⟨mantissa + 1, scale, cuts, room, Nat.le_refl _, ?_, ?_⟩ <;> push_cast <;> linarith
  -- The mantissa rounds up to its bound and loses a digit. The one that is left is rounded from
  -- less than a unit below the bound, which is a tenth of a unit of the place before.
  have bound : mantissaBound = 79228162514264337593543950336 := rfl
  obtain rfl : mantissa = 79228162514264337593543950335 := by omega
  obtain ⟨places, rfl⟩ := Nat.exists_eq_add_one_of_ne_zero (n := scale) (by omega)
  refine ⟨7922816251426433759354395034, places, ?_, by omega, Nat.le_succ _, ?_⟩
  · rw [cut, if_neg down, if_neg room]
    rfl
  · rw [pow_succ] at lower upper
    push_cast at lower upper ⊢
    constructor <;> linarith

/-- Scaled to the place behind a cut, a number is what was kept, the digit at that place, and
a part of its unit. -/
theorem value_at_cut {taken : List Char} (split : text = taken ++ c :: rest) (mantissa : Nat) :
    (Nat.ofDigitChars 10 text mantissa : ℚ) / 10 ^ text.length * 10 ^ taken.length * 10 =
      Nat.ofDigitChars 10 taken mantissa * 10 + digitValue c +
        Nat.ofDigitChars 10 rest 0 / 10 ^ rest.length := by
  have total : text.length = taken.length + 1 + rest.length := by
    simp only [split, List.length_append, List.length_cons]
    omega
  rw [total, split, Nat.ofDigitChars_append, ofDigitChars_cons_eq,
    Nat.ofDigitChars_eq_ofDigitChars_zero, pow_add, pow_add]
  push_cast
  field_simp

/-- A number that does not overflow is kept up to half a unit of its last place. -/
theorem exists_read {number : ℚ} (all : ∀ c ∈ text, c.isDigit = true)
    (below : mantissa < mantissaBound) (same : number =
      Nat.ofDigitChars 10 text mantissa / 10 ^ text.length)
    (fits : ¬ (mantissa = mantissaBound - 1 ∧ ∃ c ∈ text.head?, 5 ≤ digitValue c)) :
    ∃ kept places, readFraction mantissa 0 true text = some (kept, places) ∧
      kept < mantissaBound ∧ places ≤ maxScale ∧ Approximates number kept places := by
  rcases readFraction_cases all below (Nat.zero_le _) with ⟨read, less, within⟩ |
    ⟨taken, c, rest, split, less, within, -, read⟩
  · rw [Nat.zero_add] at read within
    refine ⟨_, _, read, less, within, ?_⟩
    rw [same]
    exact approximates_self _ _
  · have answers : cut (Nat.ofDigitChars 10 taken mantissa) (0 + taken.length) (digitValue c) ≠
        none := by
      rwa [← read, ne_eq, readFraction_eq_none_iff all below]
    rw [Nat.zero_add] at read within answers
    rw [split] at all
    obtain ⟨-, digit, behind⟩ : _ ∧ c.isDigit = true ∧ ∀ c ∈ rest, c.isDigit = true := by
      rwa [List.forall_mem_append, List.forall_mem_cons] at all
    have behind_nonnegative : (0 : ℚ) ≤ Nat.ofDigitChars 10 rest 0 / 10 ^ rest.length := by
      positivity
    have behind_less : (Nat.ofDigitChars 10 rest 0 : ℚ) / 10 ^ rest.length < 1 := by
      rw [div_lt_one (by positivity)]
      exact_mod_cast ofDigitChars_lt behind
    have scaled := value_at_cut split mantissa
    rw [← same] at scaled
    have lower : (Nat.ofDigitChars 10 taken mantissa * 10 + digitValue c : ℚ) ≤
        number * 10 ^ taken.length * 10 := by linarith
    have upper : number * 10 ^ taken.length * 10 <
        Nat.ofDigitChars 10 taken mantissa * 10 + digitValue c + 1 := by linarith
    rw [ne_eq, cut_eq_none_iff less] at answers
    obtain ⟨kept, places, cuts, small, fewer, near⟩ :=
      exists_cut less (digitValue_lt digit) lower upper answers
    exact ⟨kept, places, read.trans cuts, small, Nat.le_trans fewer within, near⟩

/-! ## Whole parts -/

theorem readWhole_digits (all : ∀ c ∈ text, c.isDigit = true) (below : mantissa < mantissaBound)
    (tail : List Char) :
    readWhole mantissa digits (text ++ tail) =
      if Nat.ofDigitChars 10 text mantissa < mantissaBound then
        readWhole (Nat.ofDigitChars 10 text mantissa) (digits || !text.isEmpty) tail
      else none := by
  induction text generalizing mantissa digits with
  | nil => simp [below]
  | cons c text ih =>
      obtain ⟨digit, others⟩ := List.forall_mem_cons.mp all
      rw [List.cons_append, readWhole, if_pos digit, ofDigitChars_cons_eq]
      by_cases fits : mantissa * 10 + digitValue c < mantissaBound
      · rw [if_pos fits, ih others fits]
        simp
      · have more := le_ofDigitChars text (mantissa * 10 + digitValue c)
        rw [if_neg fits, if_neg (by omega)]

/-- Behind its whole part a numeral is read as its fraction, be there one or not. -/
theorem readWhole_fraction (mantissa : Nat) (fraction : List Char) :
    readWhole mantissa true (if fraction.isEmpty then [] else '.' :: fraction) =
      readFraction mantissa 0 true fraction := by
  cases fraction with
  | nil => rfl
  | cons c fraction =>
      have noDigit : '.'.isDigit = false := rfl
      simp [readWhole, noDigit]

theorem ofChars?_unsigned (minus : c ≠ '-') (plus : c ≠ '+') :
    ofChars? (c :: text) = (readWhole 0 false (c :: text)).map (signed false) := by
  rw [ofChars?]
  · rintro text ⟨⟩
    exact minus rfl
  · rintro text ⟨⟩
    exact plus rfl

theorem ofChars?_numeral (numeral : Numeral) :
    ofChars? numeral.text.toList =
      if numeral.wholeNumber < mantissaBound then
        (readFraction numeral.wholeNumber 0 true numeral.fraction).map (signed false)
      else none := by
  obtain ⟨c, others, text, minus, plus⟩ := numeral.exists_head
  have inhabited : numeral.whole.isEmpty = false := List.isEmpty_eq_false_iff.mpr
    numeral.whole_ne_nil
  rw [text, ofChars?_unsigned minus plus, ← text, Numeral.text, String.toList_ofList,
    readWhole_digits numeral.isDigit_whole (by decide), inhabited, Bool.not_false, Bool.or_true,
    readWhole_fraction, apply_ite (Option.map (signed false)), Option.map_none]
  rfl

end Decimal

open Decimal

/-- **Numerals are read exactly, or to half a unit.** A number token of digits, with perhaps a
point among them, is no decimal number exactly if its whole part overflows. If it is one, it
has no sign and is nearest to what was written, up to half a unit in its last place. If all
digits fit, it has all of them, and is what was written. -/
theorem Token.decimal_of_numeral {token : Token} {numeral : Numeral}
    (isNumber : token.kind = .integer ∨ token.kind = .float) (data : token.data = numeral.text) :
    (token.decimal? = none ↔ numeral.Overflows) ∧
    (¬ numeral.Overflows → ∃ number, token.decimal? = some number ∧ number.negative = false ∧
      number.mantissa < 2 ^ 96 ∧ number.scale ≤ 28 ∧
      number.value = number.mantissa / 10 ^ number.scale ∧
      |numeral.value - number.value| ≤ 1 / 2 / 10 ^ number.scale) ∧
    (numeral.fraction.length ≤ 28 → numeral.allDigits < 2 ^ 96 →
      token.decimal? = some ⟨false, numeral.allDigits, numeral.fraction.length⟩ ∧
      (⟨false, numeral.allDigits, numeral.fraction.length⟩ : Decimal).value = numeral.value) := by
  have unsigned (mantissa scale : Nat) :
      (⟨false, mantissa, scale⟩ : Decimal).value = mantissa / 10 ^ scale := by
    rw [Decimal.value, if_neg Bool.false_ne_true, one_mul]
  have total : numeral.allDigits = Nat.ofDigitChars 10 numeral.fraction numeral.wholeNumber :=
    Nat.ofDigitChars_append 0
  have bound : mantissaBound = 2 ^ 96 := rfl
  rw [Token.decimal?, if_pos isNumber, data, ofChars?_numeral, ← bound]
  by_cases below : numeral.wholeNumber < mantissaBound
  · rw [if_pos below]
    have overflows : numeral.Overflows ↔ numeral.wholeNumber = mantissaBound - 1 ∧
        ∃ c ∈ numeral.fraction.head?, 5 ≤ digitValue c :=
      or_iff_right (Nat.not_le.mpr below)
    refine ⟨?_, ?_, ?_⟩
    · rw [Option.map_eq_none_iff, readFraction_eq_none_iff numeral.isDigit_fraction below,
        overflows]
    · intro fits
      rw [overflows] at fits
      have written : numeral.value = Nat.ofDigitChars 10 numeral.fraction numeral.wholeNumber /
          10 ^ numeral.fraction.length := by
        rw [Numeral.value, total]
      obtain ⟨kept, places, read, small, within, near⟩ :=
        exists_read numeral.isDigit_fraction below written fits
      refine ⟨⟨false, kept, places⟩, by rw [read]; rfl, rfl, small, within, unsigned _ _, ?_⟩
      rw [unsigned]
      exact near
    · intro within fits
      rw [total] at fits
      have read := readFraction_of_fits numeral.isDigit_fraction fits
        (Nat.le_trans (Nat.le_of_eq (Nat.zero_add _)) within)
      rw [Nat.zero_add] at read
      refine ⟨?_, unsigned _ _⟩
      rw [read, total]
      rfl
  · have overflows : numeral.Overflows := .inl (Nat.le_of_not_lt below)
    rw [if_neg below]
    refine ⟨iff_of_true rfl overflows, fun fits => absurd overflows fits, fun _ fits => ?_⟩
    have more := le_ofDigitChars numeral.fraction numeral.wholeNumber
    omega

/-- The first 29 digits are just below the bound. The mantissa is rounded up to it, and with
one digit less it is rounded from `033.55` and not from `033.6`. -/
theorem Token.decimal_of_numeral_at_bound :
    let token : Token := ⟨.float, "7922816251426433759354395033.55", .start⟩
    let numeral : Numeral := ⟨"7922816251426433759354395033".toList, ['5', '5'], by decide +kernel,
      List.all_iff_forall_prop.mp (by decide +kernel), List.all_iff_forall_prop.mp (by decide)⟩
    (token.kind = .integer ∨ token.kind = .float) ∧ token.data = numeral.text ∧
      ¬ numeral.Overflows ∧
      token.decimal? = some ⟨false, 7922816251426433759354395034, 0⟩ ∧
      |numeral.value - 7922816251426433759354395034| ≤ 1 / 2 := by
  intro token numeral
  have isNumber : token.kind = .integer ∨ token.kind = .float := .inr rfl
  have data : token.data = numeral.text := by decide +kernel
  have read : token.decimal? = some ⟨false, 7922816251426433759354395034, 0⟩ := by decide +kernel
  obtain ⟨overflows, nearest, -⟩ := decimal_of_numeral isNumber data
  have fits : ¬ numeral.Overflows := by
    rw [← overflows, read]
    nofun
  obtain ⟨number, given, -, -, -, value, near⟩ := nearest fits
  obtain rfl := Option.some.inj (read.symm.trans given)
  refine ⟨isNumber, data, fits, read, ?_⟩
  rw [value] at near
  simpa using near

end DataFormula
