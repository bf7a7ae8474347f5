import DataFormula.Proofs.Expr.JsonReading
import DataFormula.Proofs.Number.Approximation

/-!
# Numbers that are written in several ways

Zeros in front of a number are not kept, and zeros at the end of its fraction are kept or not
without any other digit being kept for them. So all numerals of one number are one decimal
number, but for its zeros (`Numeral.normalize_of_value_eq`), and the value of a number token in
a JSON text is the number, however it was written (`Token.value_of_number`).
-/

namespace DataFormula

namespace Decimal

variable {text other : List Char}

/-! ## Zeros at the end -/

/-- What was read of a number, without the zeros at the end of its fraction. -/
def strip (read : Nat × Nat) : Nat × Nat := stripZeros read.1 read.2

theorem stripZeros_mul_ten (mantissa scale : Nat) :
    stripZeros (mantissa * 10) (scale + 1) = stripZeros mantissa scale := by
  rw [stripZeros, if_pos (Nat.mul_mod_left _ _), Nat.mul_div_cancel _ (by decide)]

theorem stripZeros_of_whole (n scale : Nat) : stripZeros (n * 10 ^ scale) scale = (n, 0) := by
  induction scale with
  | zero => rw [Nat.pow_zero, Nat.mul_one, stripZeros]
  | succ scale ih => rw [Nat.pow_succ, ← Nat.mul_assoc, stripZeros_mul_ten, ih]

theorem map_normalize_signed (read : Option (Nat × Nat)) :
    (read.map (signed false)).map normalize = (read.map strip).map (signed false) := by
  cases read <;> rfl

theorem map_strip_readFraction_zeros (mantissa scale count : Nat) :
    (readFraction mantissa scale true (List.replicate count '0')).map strip =
      some (stripZeros mantissa scale) := by
  induction count generalizing mantissa scale with
  | zero => rfl
  | succ count ih =>
      have zero : digitValue '0' = 0 := rfl
      rw [List.replicate_succ, readFraction_cons rfl (Json.isDigit_of_mem_zeros count), zero,
        Nat.add_zero]
      by_cases fits : scale < maxScale ∧ mantissa * 10 < mantissaBound
      · rw [if_pos fits, ih, stripZeros_mul_ten]
      · rw [if_neg fits]
        rfl

/-- Zeros behind a fraction are stripped again, as far as they are read. -/
theorem map_strip_readFraction_append (all : ∀ c ∈ text, c.isDigit = true)
    (mantissa scale count : Nat) :
    (readFraction mantissa scale true (text ++ List.replicate count '0')).map strip =
      (readFraction mantissa scale true text).map strip := by
  induction text generalizing mantissa scale with
  | nil => exact map_strip_readFraction_zeros mantissa scale count
  | cons c text ih =>
      obtain ⟨digit, others⟩ := List.forall_mem_cons.mp all
      have further : ∀ c ∈ text ++ List.replicate count '0', c.isDigit = true :=
        List.forall_mem_append.mpr ⟨others, Json.isDigit_of_mem_zeros count⟩
      rw [List.cons_append, readFraction_cons digit further, readFraction_cons digit others]
      by_cases fits : scale < maxScale ∧ mantissa * 10 + digitValue c < mantissaBound
      · rw [if_pos fits, if_pos fits, ih others]
      · rw [if_neg fits, if_neg fits]

/-! ## Numerals of one number -/

theorem digitValue_inj {c d : Char} (digit : c.isDigit = true) (digit' : d.isDigit = true)
    (same : digitValue c = digitValue d) : c = d := by
  have lower := (Char.isDigit_iff_toNat.mp digit).1
  have lower' := (Char.isDigit_iff_toNat.mp digit').1
  rw [digitValue, digitValue] at same
  exact Char.toNat_inj.mp (by omega)

/-- As many digits behind other numbers write other numbers, unless both are the same. -/
theorem ofDigitChars_inj (all : ∀ c ∈ text, c.isDigit = true)
    (all' : ∀ c ∈ other, c.isDigit = true) (length : text.length = other.length) {m n : Nat}
    (same : Nat.ofDigitChars 10 text m = Nat.ofDigitChars 10 other n) : m = n ∧ text = other := by
  induction text generalizing other m n with
  | nil =>
      obtain rfl := List.length_eq_zero_iff.mp length.symm
      exact ⟨same, rfl⟩
  | cons c text ih =>
      obtain ⟨d, other, rfl⟩ := List.exists_cons_of_length_eq_add_one length.symm
      obtain ⟨digit, others⟩ := List.forall_mem_cons.mp all
      obtain ⟨digit', others'⟩ := List.forall_mem_cons.mp all'
      rw [ofDigitChars_cons_eq, ofDigitChars_cons_eq] at same
      obtain ⟨fronts, rfl⟩ := ih others others' (Nat.succ.inj length) same
      have upper := digitValue_lt digit
      have upper' := digitValue_lt digit'
      exact ⟨by omega, by rw [digitValue_inj digit digit' (by omega)]⟩

end Decimal

namespace Numeral

open Decimal

variable {numeral other : Numeral}

/-- Two numerals of one number differ in zeros only. -/
theorem parts_of_value_eq (same : numeral.value = other.value)
    (shorter : numeral.fraction.length ≤ other.fraction.length) :
    numeral.wholeNumber = other.wholeNumber ∧ ∃ count,
      other.fraction = numeral.fraction ++ List.replicate count '0' := by
  obtain ⟨count, length⟩ := Nat.exists_eq_add_of_le shorter
  have scaled : 10 ^ count * numeral.allDigits = other.allDigits := by
    rw [value, value, length, pow_add, div_eq_div_iff (by positivity) (by positivity)] at same
    have unit : (0 : ℚ) < 10 ^ numeral.fraction.length := by positivity
    have cancelled : (10 ^ count * numeral.allDigits : ℚ) = other.allDigits := by
      apply mul_right_cancel₀ unit.ne'
      linarith
    exact_mod_cast cancelled
  have digits : Nat.ofDigitChars 10 (numeral.fraction ++ List.replicate count '0')
      numeral.wholeNumber = Nat.ofDigitChars 10 other.fraction other.wholeNumber := by
    rw [wholeNumber, wholeNumber, ← Nat.ofDigitChars_append, ← Nat.ofDigitChars_append,
      ← List.append_assoc, Nat.ofDigitChars_append, Nat.ofDigitChars_replicate_zero]
    exact scaled
  have all : ∀ c ∈ numeral.fraction ++ List.replicate count '0', c.isDigit = true :=
    List.forall_mem_append.mpr ⟨numeral.isDigit_fraction, Json.isDigit_of_mem_zeros count⟩
  obtain ⟨wholes, fractions⟩ := ofDigitChars_inj all other.isDigit_fraction
    (by rw [length, List.length_append, List.length_replicate]) digits
  exact ⟨wholes, count, fractions.symm⟩

/-- **Numerals of one number** are the same decimal number, but for its zeros. -/
theorem normalize_of_value_eq (same : numeral.value = other.value) :
    (ofChars? numeral.text.toList).map normalize = (ofChars? other.text.toList).map normalize := by
  wlog shorter : numeral.fraction.length ≤ other.fraction.length generalizing numeral other
  · exact (this same.symm (Nat.le_of_not_le shorter)).symm
  obtain ⟨wholes, count, fractions⟩ := parts_of_value_eq same shorter
  rw [ofChars?_numeral, ofChars?_numeral, wholes, fractions]
  by_cases below : other.wholeNumber < mantissaBound
  · rw [if_pos below, if_pos below, map_normalize_signed, map_normalize_signed,
      map_strip_readFraction_append numeral.isDigit_fraction]
  · rw [if_neg below, if_neg below]

end Numeral

/-! ## Values of tokens -/

namespace Decimal

theorem negative_of_numeral {number : Decimal} {numeral : Numeral}
    (read : ofChars? numeral.text.toList = some number) : number.negative = false := by
  rw [ofChars?_numeral, Option.ite_none_right_eq_some] at read
  obtain ⟨kept, -, rfl⟩ := Option.map_eq_some_iff.mp read.2
  rfl

/-- Whole numbers of 64 bits are printed by their digits. -/
theorem readbackText_of_whole {number : Decimal} {n : Nat} (unsigned : number.negative = false)
    (same : number.value = n) (fits : n < 2 ^ 64) : number.normalize.readbackText = n.repr := by
  have unit : (0 : ℚ) < 10 ^ number.scale := by positivity
  have mantissa : number.mantissa = n * 10 ^ number.scale := by
    rw [Decimal.value, unsigned, if_neg Bool.false_ne_true, one_mul, div_eq_iff unit.ne'] at same
    exact_mod_cast same
  have normalized : number.normalize = ⟨false, n, 0⟩ := by
    rw [normalize, unsigned, mantissa, stripZeros_of_whole]
    rfl
  have isWord : (⟨false, n, 0⟩ : Decimal).isWord = true := decide_eq_true fits
  rw [normalized, readbackText, if_pos isWord, String.ext_iff, toList_text_of_whole rfl,
    if_neg Bool.false_ne_true, List.nil_append, Nat.toList_repr]

end Decimal

namespace Integer

theorem ofChars?_unsigned {c : Char} {text : List Char} (minus : c ≠ '-') (plus : c ≠ '+') :
    ofChars? (c :: text) = ((magnitude? (c :: text)).map Int.ofNat).filter fits := by
  rw [ofChars?]
  · rintro text ⟨⟩
    exact minus rfl
  · rintro text ⟨⟩
    exact plus rfl

theorem fits_natCast_iff (n : Nat) : fits n = true ↔ n < 2 ^ 63 := by
  have bound : (Nat.pow 2 63 : Int) = 2 ^ 63 := rfl
  rw [fits, bound, Bool.and_eq_true, decide_eq_true_eq, decide_eq_true_eq]
  omega

/-- Digits without a point are read as the number that they write, if it fits 63 bits. -/
theorem ofChars?_numeral {numeral : Numeral} (pointless : numeral.fraction = []) :
    ofChars? numeral.text.toList =
      if numeral.wholeNumber < 2 ^ 63 then some (numeral.wholeNumber : Int) else none := by
  obtain ⟨c, others, text, minus, plus⟩ := numeral.exists_head
  have inhabited : numeral.whole.isEmpty = false := List.isEmpty_eq_false_iff.mpr
    numeral.whole_ne_nil
  have magnitude : magnitude? numeral.text.toList = some numeral.wholeNumber := by
    rw [Numeral.text, String.toList_ofList, pointless, List.isEmpty_nil, if_pos rfl,
      List.append_nil, magnitude?, inhabited, if_neg Bool.false_ne_true,
      if_pos (List.all_eq_true.mpr numeral.isDigit_whole)]
    rfl
  rw [text, ofChars?_unsigned minus plus, ← text, magnitude, Option.map_some, Option.filter_some]
  exact if_congr (fits_natCast_iff _) rfl rfl

end Integer

namespace Token

/-- The value of a token, as it is read from its JSON text. -/
def writtenValue? (token : Token) : Option Json.Document :=
  (Json.read? token.toJson.compact).bind fun document => document.get? "value"

theorem writtenValue?_eq (token : Token) : token.writtenValue? = token.value?.map .number := by
  rw [writtenValue?, Json.read?_eq_some_iff.mpr (Json.isText_compact token.hasNumerals_toJson)]
  exact token.describes_toJson.value

theorem value?_of_float {token : Token} (isFloat : token.kind = .float) :
    token.value? = (token.decimal?.map Decimal.normalize).map Decimal.readbackText := by
  rw [value?, isFloat, Option.map_map]
  rfl

theorem decimal?_of_float {token : Token} {numeral : Numeral} (isFloat : token.kind = .float)
    (data : token.data = numeral.text) :
    token.decimal? = Decimal.ofChars? numeral.text.toList := by
  rw [decimal?, if_pos (.inr isFloat), data]

/-- **The value in a JSON text is the number that was written.** Digits without a point have
one exactly if their number fits 63 bits, and it is the number. Digits with a point have one
exactly if they are a decimal number. If that is a whole number of 64 bits, it is the number,
and it is the same for all numerals of one number. -/
theorem value_of_number :
    (∀ (token : Token) (numeral : Numeral), token.kind = .integer → token.data = numeral.text →
      numeral.fraction = [] → token.writtenValue? =
        if numeral.wholeNumber < 2 ^ 63 then some (.number numeral.wholeNumber.repr) else none) ∧
    ∀ (token : Token) (numeral : Numeral), token.kind = .float → token.data = numeral.text →
      (token.writtenValue?.isSome = token.decimal?.isSome) ∧
      (∀ (number : Decimal) (n : Nat), token.decimal? = some number → number.value = n →
        n < 2 ^ 64 → token.writtenValue? = some (.number n.repr)) ∧
      ∀ (other : Token) (numeral' : Numeral), other.kind = .float → other.data = numeral'.text →
        numeral'.value = numeral.value → other.writtenValue? = token.writtenValue? := by
  refine ⟨fun token numeral isInteger data pointless => ?_, fun token numeral isFloat data => ?_⟩
  · have text (n : Nat) : Integer.text n = n.repr := by
      rw [Integer.text, if_neg (by omega), String.empty_append, Int.natAbs_natCast]
    rw [writtenValue?_eq, value?, isInteger]
    dsimp only
    rw [integer?, if_pos isInteger, data, Integer.ofChars?_numeral pointless]
    split
    · rw [Option.map_some, Option.map_some, text]
    · rfl
  · have read := decimal?_of_float isFloat data
    refine ⟨?_, fun number n given same fits => ?_, fun other numeral' isFloat' data' same => ?_⟩
    · rw [writtenValue?_eq, value?_of_float isFloat, Option.isSome_map, Option.isSome_map,
        Option.isSome_map]
    · have unsigned := Decimal.negative_of_numeral (read.symm.trans given)
      rw [writtenValue?_eq, value?_of_float isFloat, given, Option.map_some, Option.map_some,
        Option.map_some, Decimal.readbackText_of_whole unsigned same fits]
    · rw [writtenValue?_eq, writtenValue?_eq, value?_of_float isFloat, value?_of_float isFloat',
        read, decimal?_of_float isFloat' data', Numeral.normalize_of_value_eq same]

/-- Of thirty zeros behind the greatest word nine are read, but its value is the word. -/
theorem value_of_number_greatest_word :
    let digits := "18446744073709551615".toList
    let zeros := List.replicate 30 '0'
    let answer : Token := ⟨.integer, "0042", .start⟩
    let word : Token := ⟨.float, String.ofList (digits ++ ['.', '0']), .start⟩
    let padded : Token := ⟨.float, String.ofList (zeros ++ digits ++ '.' :: zeros), .start⟩
    answer.writtenValue? = some (.number "42") ∧
      word.decimal? = some ⟨false, 184467440737095516150, 1⟩ ∧
      padded.decimal? = some ⟨false, 18446744073709551615000000000, 9⟩ ∧
      word.writtenValue? = some (.number "18446744073709551615") ∧
      padded.writtenValue? = word.writtenValue? := by
  intro digits zeros answer word padded
  let fortyTwo : Numeral :=
    ⟨"0042".toList, [], by decide +kernel, List.all_iff_forall_prop.mp (by decide +kernel),
      List.forall_mem_nil _⟩
  let short : Numeral :=
    ⟨digits, ['0'], by decide +kernel, List.all_iff_forall_prop.mp (by decide +kernel),
      List.all_iff_forall_prop.mp (by decide +kernel)⟩
  let long : Numeral :=
    ⟨zeros ++ digits, zeros, by decide +kernel, List.all_iff_forall_prop.mp (by decide +kernel),
      List.all_iff_forall_prop.mp (by decide +kernel)⟩
  obtain ⟨ofInteger, ofFloat⟩ := value_of_number
  have first := ofInteger answer fortyTwo rfl (by decide +kernel) rfl
  have fortyTwo_eq : fortyTwo.wholeNumber = 42 := by decide +kernel
  rw [fortyTwo_eq, if_pos (by decide)] at first
  have read : word.decimal? = some ⟨false, 184467440737095516150, 1⟩ := by decide +kernel
  have read' : padded.decimal? = some ⟨false, 18446744073709551615000000000, 9⟩ := by
    decide +kernel
  obtain ⟨-, whole, alike⟩ := ofFloat word short rfl (by decide +kernel)
  have value : (⟨false, 184467440737095516150, 1⟩ : Decimal).value =
      (18446744073709551615 : Nat) := by
    norm_num [Decimal.value]
  have same : long.value = short.value := by
    have digits : short.allDigits = 184467440737095516150 := by decide +kernel
    have digits' : long.allDigits = 18446744073709551615 * 10 ^ 30 := by decide +kernel
    have length : long.fraction.length = 30 := List.length_replicate
    have length' : short.fraction.length = 1 := rfl
    rw [Numeral.value, Numeral.value, digits, digits', length, length']
    norm_num
  exact ⟨first, read, read', whole _ _ read value (by decide),
    alike padded long rfl (by decide +kernel) same⟩

end Token

end DataFormula
