import DataFormula.Proofs.Lexer.Spelling

/-!
# Quoted characters

A quoted character is the character itself, a letter behind a backslash, or the code point
in hexadecimal (`Quoted.EscapedAs`). What is written for one character starts nothing that
is written for another one, so a quoted text tells what it quotes and where it ends
(`Quoted.quoted_inj`).
-/

namespace DataFormula.Text.Quoted

open Lexeme

/-! ## Hexadecimal digits -/

theorem toDigits_sixteen_cases (n : Nat) :
    (n < 16 ∧ Nat.toDigits 16 n = [Nat.digitChar n]) ∨
      (16 ≤ n ∧ Nat.toDigits 16 n = Nat.toDigits 16 (n / 16) ++ [Nat.digitChar (n % 16)]) := by
  by_cases small : n < 16
  · exact .inl ⟨small, Nat.toDigits_of_lt_base small⟩
  · exact .inr ⟨Nat.le_of_not_lt small,
      Nat.toDigits_of_base_le (by decide) (Nat.le_of_not_lt small)⟩

theorem exists_of_mem_toDigits_sixteen {c : Char} {n : Nat} (member : c ∈ Nat.toDigits 16 n) :
    ∃ digit < 16, c = Nat.digitChar digit := by
  induction n using Nat.strongRecOn with
  | ind n ih =>
      rcases toDigits_sixteen_cases n with ⟨small, digits⟩ | ⟨large, digits⟩
      · rw [digits, List.mem_singleton] at member
        exact ⟨n, small, member⟩
      · rw [digits, List.mem_append, List.mem_singleton] at member
        rcases member with member | member
        · exact ih (n / 16) (by omega) member
        · exact ⟨n % 16, Nat.mod_lt n (by decide), member⟩

theorem digitChar_inj {m n : Nat} (small : m < 16) (small' : n < 16)
    (same : Nat.digitChar m = Nat.digitChar n) : m = n := by
  have each : ∀ m < 16, ∀ n < 16, Nat.digitChar m = Nat.digitChar n → m = n := by decide
  exact each m small n small' same

theorem toDigits_sixteen_inj {m n : Nat} (same : Nat.toDigits 16 m = Nat.toDigits 16 n) :
    m = n := by
  induction m using Nat.strongRecOn generalizing n with
  | ind m ih =>
      rcases toDigits_sixteen_cases m with ⟨small, digits⟩ | ⟨large, digits⟩ <;>
        rcases toDigits_sixteen_cases n with ⟨small', digits'⟩ | ⟨large', digits'⟩ <;>
        rw [digits, digits'] at same
      · exact digitChar_inj small small' (List.singleton_inj.mp same)
      · exact absurd (List.append_eq_singleton_iff.mp same.symm) (by simp [Nat.toDigits_ne_nil])
      · exact absurd (List.append_eq_singleton_iff.mp same) (by simp [Nat.toDigits_ne_nil])
      · obtain ⟨front, last⟩ := List.append_inj' same rfl
        have upper : m / 16 = n / 16 := ih (m / 16) (by omega) front
        have lower : m % 16 = n % 16 :=
          digitChar_inj (Nat.mod_lt m (by decide)) (Nat.mod_lt n (by decide))
            (List.singleton_inj.mp last)
        omega

/-! ## One character -/

/-- The letters that are written behind a backslash, and what they stand for. -/
def letters : List (Char × Char) :=
  [('0', '\x00'), ('t', '\t'), ('r', '\r'), ('n', '\n'), ('"', '"'), ('\\', '\\')]

/-- How a character is written between quotes. -/
inductive EscapedAs : Char → List Char → Prop where
  | plain {c : Char} (apart : c ∉ ['"', '\\', '\n']) : EscapedAs c [c]
  | letter {letter c : Char} (member : (letter, c) ∈ letters) : EscapedAs c ['\\', letter]
  | code (c : Char) :
      EscapedAs c ('\\' :: 'u' :: '\x7b' :: (Nat.toDigits 16 c.toNat ++ ['\x7d']))

theorem escapedAs_escape (c : Char) : EscapedAs c (escape c) := by
  unfold escape
  split
  · rename_i zero
    subst zero
    exact .letter (by decide)
  split
  · rename_i tab
    subst tab
    exact .letter (by decide)
  split
  · rename_i back
    subst back
    exact .letter (by decide)
  split
  · rename_i feed
    subst feed
    exact .letter (by decide)
  split
  · rename_i mark
    subst mark
    exact .letter (by decide)
  split
  · rename_i slash
    subst slash
    exact .letter (by decide)
  split
  · exact .code c
  · rename_i feed mark slash _
    exact .plain (by simp [feed, mark, slash])

section Unique

variable {c d : Char} {written other rest more data : List Char}

theorem EscapedAs.newline_not_mem (escaped : EscapedAs c written) : '\n' ∉ written := by
  cases escaped with
  | plain apart =>
      intro member
      rw [List.mem_singleton] at member
      subst member
      exact apart (by decide)
  | letter member =>
      have each : ∀ pair ∈ letters, '\n' ∉ ['\\', pair.1] := by decide
      exact each _ member
  | code =>
      have digits : '\n' ∉ Nat.toDigits 16 c.toNat := by
        intro member
        obtain ⟨digit, small, same⟩ := exists_of_mem_toDigits_sixteen member
        have each : ∀ digit < 16, '\n' ≠ Nat.digitChar digit := by decide
        exact each digit small same
      simp [digits]

/-- A code point in hexadecimal tells where it ends. -/
theorem isRun_toDigits (n : Nat) (rest : List Char) :
    IsRun (· != '\x7d') (Nat.toDigits 16 n) ('\x7d' :: rest) where
  all c member := by
    obtain ⟨digit, small, rfl⟩ := exists_of_mem_toDigits_sixteen member
    have each : ∀ digit < 16, (Nat.digitChar digit != '\x7d') = true := by decide
    exact each digit small
  stops c head := by
    cases head
    rfl

/-- What is written for a character tells which one it is and where it ends. -/
theorem EscapedAs.append_inj (escaped : EscapedAs c written) (escaped' : EscapedAs d other)
    (same : written ++ rest = other ++ more) : c = d ∧ rest = more := by
  have noCode : ∀ pair ∈ letters, pair.1 ≠ 'u' := by decide
  cases escaped with
  | plain apart =>
      cases escaped' with
      | plain apart' =>
          obtain ⟨rfl, rfl⟩ := List.cons.inj same
          exact ⟨rfl, rfl⟩
      | letter | code =>
          obtain ⟨rfl, -⟩ := List.cons.inj same
          exact absurd (by decide) apart
  | letter member =>
      cases escaped' with
      | plain apart' =>
          obtain ⟨rfl, -⟩ := List.cons.inj same
          exact absurd (by decide) apart'
      | letter member' =>
          simp only [List.cons_append, List.nil_append, List.cons.injEq, true_and] at same
          obtain ⟨rfl, rfl⟩ := same
          have functional : ∀ pair ∈ letters, ∀ pair' ∈ letters,
              pair.1 = pair'.1 → pair.2 = pair'.2 := by decide
          exact ⟨functional _ member _ member' rfl, rfl⟩
      | code =>
          simp only [List.cons_append, List.nil_append, List.cons.injEq, true_and] at same
          exact absurd same.1 (noCode _ member)
  | code =>
      cases escaped' with
      | plain apart' =>
          obtain ⟨rfl, -⟩ := List.cons.inj same
          exact absurd (by decide) apart'
      | letter member' =>
          simp only [List.cons_append, List.nil_append, List.cons.injEq, true_and] at same
          exact absurd same.1.symm (noCode _ member')
      | code =>
          simp only [List.cons_append, List.append_assoc, List.nil_append, List.cons.injEq,
            true_and] at same
          have taken := (isRun_toDigits c.toNat rest).takeWhile_eq
          have left := (isRun_toDigits c.toNat rest).dropWhile_eq
          rw [same, (isRun_toDigits d.toNat more).takeWhile_eq] at taken
          rw [same, (isRun_toDigits d.toNat more).dropWhile_eq] at left
          exact ⟨Char.toNat_inj.mp (toDigits_sixteen_inj taken.symm), (List.cons.inj left).2.symm⟩

theorem EscapedAs.append_ne_mark (escaped : EscapedAs c written) :
    written ++ rest ≠ '"' :: more := by
  intro same
  cases escaped with
  | plain apart =>
      obtain ⟨rfl, -⟩ := List.cons.inj same
      exact apart (by decide)
  | letter | code => cases same

/-! ## A text -/

/-- **Quoted text is uniquely readable.** Up to its closing quote it tells what it quotes. -/
theorem quoted_inj {others : List Char}
    (same : data.flatMap escape ++ '"' :: rest = others.flatMap escape ++ '"' :: more) :
    data = others ∧ rest = more := by
  induction data generalizing others with
  | nil =>
      cases others with
      | nil => exact ⟨rfl, (List.cons.inj same).2⟩
      | cons d others =>
          rw [List.flatMap_cons, List.append_assoc] at same
          exact absurd same.symm (escapedAs_escape d).append_ne_mark
  | cons c data ih =>
      cases others with
      | nil =>
          rw [List.flatMap_cons, List.append_assoc] at same
          exact absurd same (escapedAs_escape c).append_ne_mark
      | cons d others =>
          rw [List.flatMap_cons, List.flatMap_cons, List.append_assoc, List.append_assoc] at same
          obtain ⟨rfl, further⟩ := (escapedAs_escape c).append_inj (escapedAs_escape d) same
          obtain ⟨rfl, rfl⟩ := ih further
          exact ⟨rfl, rfl⟩

theorem newline_not_mem_quoted (data : List Char) : '\n' ∉ data.flatMap escape := by
  intro member
  obtain ⟨c, -, member⟩ := List.mem_flatMap.mp member
  exact (escapedAs_escape c).newline_not_mem member

end Unique

end DataFormula.Text.Quoted
