/-!
# Sets of code points

A set of characters is written as the list of its ranges of code points, in
increasing order and apart from each other. Membership is decided by a search
that stops at the first range behind the code point (`CodeRanges.holds`), which
finds every member because of the order (`CodeRanges.holds_iff`).
-/

namespace DataFormula.Text

/-- Ranges of code points, first and last included, in increasing order. -/
abbrev CodeRanges := List (Nat × Nat)

namespace CodeRanges

/-- Whether a code point lies in one of the ranges. -/
def holds : CodeRanges → Nat → Bool
  | [], _ => false
  | (first, last) :: ranges, code =>
    if code < first then false
    else if code ≤ last then true
    else holds ranges code

/-- Every range is inhabited, starts at `least` or later, and ends before the
next one starts. -/
def IncreasingFrom : Nat → CodeRanges → Prop
  | _, [] => True
  | least, (first, last) :: ranges =>
    least ≤ first ∧ first ≤ last ∧ IncreasingFrom (last + 1) ranges

instance decidableIncreasingFrom : (least : Nat) → (ranges : CodeRanges) →
    Decidable (IncreasingFrom least ranges)
  | _, [] => .isTrue trivial
  | least, (first, last) :: ranges =>
    have := decidableIncreasingFrom (last + 1) ranges
    inferInstanceAs <| Decidable <|
      least ≤ first ∧ first ≤ last ∧ IncreasingFrom (last + 1) ranges

/-- No range of an increasing list starts before its bound. -/
theorem IncreasingFrom.le_of_mem {least : Nat} {ranges : CodeRanges}
    (increasing : IncreasingFrom least ranges) {range : Nat × Nat} (member : range ∈ ranges) :
    least ≤ range.1 := by
  induction ranges generalizing least with
  | nil => simp at member
  | cons head tail ih =>
    obtain ⟨low, inhabited, further⟩ := increasing
    rcases List.mem_cons.1 member with rfl | member
    · exact low
    · have := ih further member
      omega

/-- In increasing ranges the search finds exactly the code points that lie in
some range. -/
theorem holds_iff {least : Nat} {ranges : CodeRanges} (increasing : IncreasingFrom least ranges)
    {code : Nat} :
    ranges.holds code = true ↔ ∃ range ∈ ranges, range.1 ≤ code ∧ code ≤ range.2 := by
  induction ranges generalizing least with
  | nil => simp [holds]
  | cons head tail ih =>
    obtain ⟨first, last⟩ := head
    obtain ⟨-, inhabited, further⟩ := increasing
    by_cases before : code < first
    · simp only [holds, before, if_true, List.mem_cons, exists_eq_or_imp]
      refine ⟨nofun, ?_⟩
      rintro (⟨low, -⟩ | ⟨range, member, low, -⟩)
      · omega
      · have := further.le_of_mem member
        omega
    · by_cases within : code ≤ last
      · simp [holds, before, within, Nat.not_lt.1 before]
      · simp [holds, before, within, ih further]

end CodeRanges

end DataFormula.Text
