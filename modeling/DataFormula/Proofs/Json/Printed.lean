import DataFormula.Expr.Json
import DataFormula.Proofs.Json.Numeral

/-!
# Printed numbers

Whole numbers, decimal numbers and binary64 numbers are printed as numbers of JSON texts
(`Decimal.isNumeral_readbackText`), so every value of a token is one
(`Token.isNumeral_value?`).
-/

namespace DataFormula

open Json

namespace Json

section Digits

variable {sign whole digits : List Char}

theorem isDigits_toDigits (n : Nat) : IsDigits (Nat.toDigits 10 n) :=
  ⟨Nat.toDigits_ne_nil, fun _ => Nat.isDigit_of_mem_toDigits (b := 10) (by decide) (by decide)⟩

/-- Only the numeral of zero starts with one. -/
theorem eq_zero_of_head_toDigits {n : Nat} (head : (Nat.toDigits 10 n).head? = some '0') :
    n = 0 := by
  induction n using Nat.strongRecOn with
  | ind n ih =>
      by_cases small : n < 10
      · have each : ∀ n < 10, Nat.digitChar n = '0' → n = 0 := by decide
        rw [Nat.toDigits_of_lt_base small] at head
        exact each n small (Option.some.inj head)
      · have large := Nat.le_of_not_lt small
        obtain ⟨c, others, front⟩ := List.exists_cons_of_ne_nil
          (Nat.toDigits_ne_nil : Nat.toDigits 10 (n / 10) ≠ [])
        rw [Nat.toDigits_of_base_le (by decide) large, front, List.cons_append] at head
        have zero := ih (n / 10) (by omega) (front ▸ head)
        omega

theorem isWhole_toDigits (n : Nat) : IsWhole (Nat.toDigits 10 n) := by
  refine ⟨isDigits_toDigits n, fun head => ?_⟩
  rw [eq_zero_of_head_toDigits head, Nat.toDigits_zero]

theorem isWhole_singleton {c : Char} (digit : c.isDigit = true) : IsWhole [c] := by
  refine ⟨⟨List.cons_ne_nil _ _, List.forall_mem_singleton.mpr digit⟩, ?_⟩
  rintro ⟨⟩
  rfl

theorem IsDigits.append (isDigits : IsDigits digits) {others : List Char}
    (all : ∀ c ∈ others, c.isDigit = true) : IsDigits (digits ++ others) :=
  ⟨by simp [isDigits.1], List.forall_mem_append.mpr ⟨isDigits.2, all⟩⟩

theorem isDigit_of_mem_zeros (count : Nat) :
    ∀ c ∈ List.replicate count '0', c.isDigit = true := by
  intro c member
  rw [List.eq_of_mem_replicate member]
  rfl

theorem IsFraction.of_digits {others : List Char} (all : ∀ c ∈ others, c.isDigit = true) :
    IsFraction (if others.isEmpty then [] else '.' :: others) := by
  split
  · exact .inl rfl
  · rename_i inhabited
    refine .inr ⟨others, ⟨?_, all⟩, rfl⟩
    rintro rfl
    exact inhabited rfl

theorem IsDigits.or_zero {others : List Char} (all : ∀ c ∈ others, c.isDigit = true) :
    IsDigits (if others.isEmpty then ['0'] else others) := by
  split
  · exact (isWhole_singleton rfl).1
  · rename_i inhabited
    refine ⟨?_, all⟩
    rintro rfl
    exact inhabited rfl

theorem isExponent_toDigits {sign : Char} (member : sign ∈ ['+', '-']) (n : Nat) :
    IsExponent (['e', sign] ++ Nat.toDigits 10 n) :=
  .inr ⟨'e', [sign], _, by decide, .inr ⟨sign, member, rfl⟩, isDigits_toDigits n, rfl⟩

theorem IsWhole.isNumeral (isSign : IsSign ['-'] sign) (isWhole : IsWhole whole) :
    IsNumeral (sign ++ whole) := by
  have isNumeral := IsNumeral.parts isSign isWhole (.inl rfl) (.inl rfl)
  rwa [List.append_nil, List.append_nil] at isNumeral

theorem isSign_minus (negative : Prop) [Decidable negative] :
    IsSign ['-'] (if negative then ['-'] else []) := by
  split
  · exact .inr ⟨'-', List.mem_singleton_self _, rfl⟩
  · exact .inl rfl

end Digits

end Json

theorem isNumeral_repr (n : Nat) : IsNumeral n.repr.toList := by
  rw [Nat.toList_repr]
  exact (isWhole_toDigits n).isNumeral (.inl rfl)

theorem Integer.isNumeral_text (n : Int) : IsNumeral (Integer.text n).toList := by
  rw [Integer.text, String.toList_append, Nat.toList_repr, apply_ite String.toList]
  exact (isWhole_toDigits _).isNumeral (isSign_minus _)

namespace Binary64

/-! ## Shortest numerals -/

namespace Shortest

section Forms

variable {sign others : List Char} {c : Char}

theorem isNumeral_scientific (isSign : IsSign ['-'] sign) (isDigits : IsDigits (c :: others))
    {mark : Char} (member : mark ∈ ['+', '-']) (n : Nat) :
    IsNumeral (sign ++ ([c] ++ (if others.isEmpty then [] else '.' :: others) ++ ['e', mark] ++
      Nat.toDigits 10 n)) := by
  obtain ⟨digit, further⟩ := List.forall_mem_cons.mp isDigits.2
  rw [List.append_assoc, List.append_assoc]
  exact .parts isSign (isWhole_singleton digit) (.of_digits further) (isExponent_toDigits member n)

theorem isNumeral_small (isSign : IsSign ['-'] sign) (isDigits : IsDigits (c :: others))
    (count : Nat) :
    IsNumeral (sign ++ (['0', '.'] ++ List.replicate count '0' ++ c :: others)) := by
  have fraction : IsFraction ('.' :: (List.replicate count '0' ++ c :: others)) :=
    .inr ⟨_, ⟨by simp, List.forall_mem_append.mpr ⟨isDigit_of_mem_zeros _, isDigits.2⟩⟩, rfl⟩
  have parts := IsNumeral.parts isSign (isWhole_singleton (by decide : '0'.isDigit = true))
    fraction (.inl rfl)
  rwa [List.append_nil] at parts

/-- Digits with zeros behind them have none in front, unless they are one zero. -/
theorem isNumeral_positional {places : Nat} (isSign : IsSign ['-'] sign)
    (isDigits : IsDigits (c :: others)) (count : Nat)
    (canonical : c = '0' → others = [] ∧ places = 0) :
    let wide := c :: others ++ List.replicate count '0'
    IsNumeral (sign ++ (wide.take (places + 1) ++
      '.' :: (if (wide.drop (places + 1)).isEmpty then ['0'] else wide.drop (places + 1)))) := by
  intro wide
  have all : ∀ d ∈ wide, d.isDigit = true := (isDigits.append (isDigit_of_mem_zeros count)).2
  have whole : IsWhole (wide.take (places + 1)) := by
    refine ⟨⟨List.cons_ne_nil _ _, fun d member => all d (List.mem_of_mem_take member)⟩, ?_⟩
    rintro ⟨⟩
    obtain ⟨-, rfl⟩ := canonical rfl
    rfl
  have behind := IsDigits.or_zero fun d member =>
    all d (List.mem_of_mem_drop (i := places + 1) member)
  have parts := IsNumeral.parts isSign whole (.inr ⟨_, behind, rfl⟩) (.inl rfl)
  rwa [List.append_nil] at parts

theorem isNumeral_text {numeral : Shortest} (isSign : IsSign ['-'] sign)
    (canonical : numeral.digits = 0 → numeral.exponent ≤ 0) :
    IsNumeral (sign ++ numeral.text.toList) := by
  have isDigits := isDigits_toDigits numeral.digits
  obtain ⟨c, others, digits⟩ := List.exists_cons_of_ne_nil isDigits.1
  rw [digits] at isDigits
  obtain ⟨first, place⟩ : ∃ first : Int, numeral.exponent + (c :: others).length - 1 = first :=
    ⟨_, rfl⟩
  unfold text
  simp only [digits, place]
  split
  · rw [String.toList_ofList]
    exact isNumeral_scientific isSign isDigits (by split <;> decide) _
  split
  · rw [String.toList_ofList]
    exact isNumeral_small isSign isDigits _
  · rw [String.toList_ofList]
    apply isNumeral_positional isSign isDigits
    rintro rfl
    have zero := eq_zero_of_head_toDigits (congrArg List.head? digits)
    rw [zero, Nat.toDigits_zero] at digits
    obtain ⟨-, rfl⟩ := List.cons.inj digits
    have small := canonical zero
    rw [List.length_singleton] at place
    exact ⟨rfl, by omega⟩

end Forms

end Shortest

/-! ## Binary64 numbers -/

theorem mantissa_ofRatio_zero (denominator : Nat) : (ofRatio 0 denominator).mantissa = 0 := by
  have nearest (d : Nat) : nearestEven 0 d = 0 := by
    simp [nearestEven]
  have notBound : 0 ≠ Nat.pow 2 53 := by decide
  simp only [ofRatio, scaleDown, Nat.zero_mul, nearest, if_neg notBound]

theorem decimalExponent_of_mantissa {x : Binary64} (zero : x.mantissa = 0) :
    x.decimalExponent ≤ 0 := by
  have numerator : x.numerator = 0 := by rw [Binary64.numerator, zero, Nat.zero_mul]
  have inhabited : 0 < (Nat.toDigits 10 x.denominator).length :=
    List.length_pos_iff.mpr Nat.toDigits_ne_nil
  simp only [decimalExponent, numerator, Nat.toDigits_zero, List.length_singleton]
  split <;> omega

theorem digits_dropZeros_eq_zero {limit digits : Nat} {exponent : Int}
    (zero : (dropZeros limit digits exponent).digits = 0) :
    digits = 0 ∧ dropZeros limit digits exponent = ⟨0, exponent⟩ := by
  induction limit generalizing digits exponent with
  | zero =>
      obtain rfl : digits = 0 := zero
      exact ⟨rfl, rfl⟩
  | succ limit ih =>
      rw [dropZeros] at zero ⊢
      split at zero
      · rename_i trailing
        have := (ih zero).1
        omega
      · have same : digits = 0 := zero
        simp [same]

theorem mantissa_of_onGrid?_zero {x : Binary64} {exponent : Int}
    (found : x.onGrid? exponent = some 0) : x.mantissa = 0 := by
  have scaled : (ofScaled 0 exponent).mantissa = 0 := by
    rw [ofScaled, Nat.zero_mul]
    exact mantissa_ofRatio_zero _
  simp only [onGrid?] at found
  split at found
  · rename_i same
    rw [← same, Option.some.inj found]
    exact scaled
  · rw [Option.ite_none_right_eq_some] at found
    obtain ⟨same, zero⟩ := found
    rw [← same, Option.some.inj zero]
    exact scaled

theorem shortest_cases (x : Binary64) :
    x.shortest = ⟨0, 0⟩ ∨
      ∃ (more digits : Nat), x.onGrid? (x.decimalExponent - more) = some digits ∧
        x.shortest = dropZeros 17 digits (x.decimalExponent - more) := by
  have search : x.shortest = ((List.range 17).findSome? fun (more : Nat) =>
      (x.onGrid? (x.decimalExponent - more)).map fun digits =>
        dropZeros 17 digits (x.decimalExponent - more)).getD ⟨0, 0⟩ := rfl
  rw [search]
  generalize found : List.findSome? _ (List.range 17) = result
  cases result with
  | none => exact .inl rfl
  | some numeral =>
      obtain ⟨more, -, grid⟩ := List.exists_of_findSome?_eq_some found
      obtain ⟨digits, onGrid, same⟩ := Option.map_eq_some_iff.mp grid
      exact .inr ⟨more, digits, onGrid, same.symm⟩

/-- Only a number without a mantissa has no digits, and its first one is at most a unit. -/
theorem shortest_canonical {x : Binary64} (zero : x.shortest.digits = 0) :
    x.shortest.exponent ≤ 0 := by
  rcases shortest_cases x with none | ⟨more, digits, onGrid, same⟩
  · simp [none]
  · rw [same] at zero ⊢
    obtain ⟨rfl, dropped⟩ := digits_dropZeros_eq_zero zero
    have first := decimalExponent_of_mantissa (mantissa_of_onGrid?_zero onGrid)
    rw [dropped]
    exact Int.le_trans (Int.sub_le_self _ (Int.natCast_nonneg more)) first

end Binary64

/-! ## Values of tokens -/

namespace Decimal

/-- A number with its point behind the last digit is its digits. -/
theorem toList_text_of_whole {number : Decimal} (whole : number.scale = 0) :
    number.text.toList =
      (if number.negative then ['-'] else []) ++ Nat.toDigits 10 number.mantissa := by
  have inhabited : 0 < (Nat.toDigits 10 number.mantissa).length :=
    List.length_pos_iff.mpr Nat.toDigits_ne_nil
  have digits : number.digits = Nat.toDigits 10 number.mantissa := by
    have none : number.scale + 1 - (Nat.toDigits 10 number.mantissa).length = 0 := by omega
    simp only [Decimal.digits, none, List.replicate_zero, List.nil_append]
  rw [Decimal.text, String.toList_ofList, if_pos whole, List.append_nil, Decimal.whole, whole,
    Nat.sub_zero, List.take_length, digits]

theorem isNumeral_text {number : Decimal} (whole : number.scale = 0) :
    IsNumeral number.text.toList := by
  rw [toList_text_of_whole whole]
  exact (isWhole_toDigits _).isNumeral (isSign_minus _)

/-- **Numbers that are read back** are printed as numbers of a text. -/
theorem isNumeral_readbackText (number : Decimal) : IsNumeral number.readbackText.toList := by
  unfold readbackText
  split
  · rename_i isWord
    rw [Decimal.isWord, Bool.and_eq_true, beq_iff_eq] at isWord
    exact isNumeral_text isWord.1
  · rw [String.toList_append, apply_ite String.toList]
    exact Binary64.Shortest.isNumeral_text (isSign_minus _) Binary64.shortest_canonical

end Decimal

theorem Token.isNumeral_value? {token : Token} {numeral : String}
    (given : token.value? = some numeral) : IsNumeral numeral.toList := by
  unfold value? at given
  split at given
  · obtain ⟨n, -, rfl⟩ := Option.map_eq_some_iff.mp given
    exact Integer.isNumeral_text n
  · obtain ⟨number, -, rfl⟩ := Option.map_eq_some_iff.mp given
    exact number.normalize.isNumeral_readbackText
  · cases given

end DataFormula
