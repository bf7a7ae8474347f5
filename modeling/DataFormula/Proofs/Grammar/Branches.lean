import DataFormula.Proofs.Grammar.Exactness

/-!
# How high formulas are

A branch of a tree leads from its root to one of its leaves. The levels that a formula
nests bound every branch: each operation and each access on it takes one of them, and of
the negations each level holds at most one (`Grammar.IsFormula.within`). So the trees that
a cursor parses are of bounded height (`Cursor.parse_branches`).
-/

namespace DataFormula

namespace Expr

/-- Whether a node has two operands: an operation or an access. -/
def isBinary : Expr → Bool
  | operation .. | access .. => true
  | value _ | identifier _ | reference _ | negate .. => false

/-- The branches of a tree: for each leaf the nodes from the root down to it. -/
def branches : Expr → List (List Expr)
  | value token => [[value token]]
  | identifier token => [[identifier token]]
  | reference token => [[reference token]]
  | operation operator token left right =>
    (left.branches ++ right.branches).map (operation operator token left right :: ·)
  | negate token operand => operand.branches.map (negate token operand :: ·)
  | access token object key => (object.branches ++ key.branches).map (access token object key :: ·)

/-- No branch has more than a number of binary nodes, nor more than a number of edges. A
branch has one edge less than it has nodes. -/
def Within (binary edges : Nat) (expr : Expr) : Prop :=
  ∀ branch ∈ expr.branches, branch.countP isBinary ≤ binary ∧ branch.length - 1 ≤ edges

section Within

variable {binary edges more further : Nat} {expr left right : Expr} {token : Token}

theorem Within.mono (within : expr.Within binary edges) (wider : binary ≤ more)
    (longer : edges ≤ further) : expr.Within more further := by
  intro branch member
  obtain ⟨nodes, length⟩ := within branch member
  exact ⟨Nat.le_trans nodes wider, Nat.le_trans length longer⟩

theorem within_of_leaf (alone : expr.branches = [[expr]]) (leaf : expr.isBinary = false) :
    expr.Within 0 0 := by
  intro branch member
  rw [alone] at member
  rw [List.mem_singleton.mp member, List.countP_cons_of_neg (by simp [leaf])]
  exact ⟨Nat.le_refl _, Nat.le_refl _⟩

/-- A node with two operands adds a binary node and an edge to each branch of either. -/
theorem within_of_binary (isBinary : expr.isBinary = true)
    (below : expr.branches = (left.branches ++ right.branches).map (expr :: ·))
    (first : left.Within binary edges) (second : right.Within binary edges) :
    expr.Within (binary + 1) (edges + 1) := by
  intro branch member
  rw [below] at member
  obtain ⟨rest, inside, rfl⟩ := List.mem_map.mp member
  have bounds : rest.countP Expr.isBinary ≤ binary ∧ rest.length - 1 ≤ edges := by
    rcases List.mem_append.mp inside with here | there
    · exact first rest here
    · exact second rest there
  rw [List.countP_cons_of_pos isBinary, List.length_cons]
  omega

theorem within_operation {operator : Operator} (first : left.Within binary edges)
    (second : right.Within binary edges) :
    (operation operator token left right).Within (binary + 1) (edges + 1) :=
  within_of_binary rfl rfl first second

theorem within_access (first : left.Within binary edges) (second : right.Within binary edges) :
    (access token left right).Within (binary + 1) (edges + 1) :=
  within_of_binary rfl rfl first second

/-- A negation adds only an edge. -/
theorem within_negate (within : expr.Within binary edges) :
    (negate token expr).Within binary (edges + 1) := by
  intro branch member
  obtain ⟨rest, inside, rfl⟩ := List.mem_map.mp member
  obtain ⟨nodes, length⟩ := within rest inside
  rw [List.countP_cons_of_neg (by simp [isBinary]), List.length_cons]
  omega

end Within

end Expr

namespace Grammar

variable {levels : Nat} {expr : Expr}

theorem IsKey.within (isKey : IsKey expr) : expr.Within 0 0 := by
  cases isKey <;> exact Expr.within_of_leaf rfl rfl

theorem IsPath.within (path : IsPath expr) :
    expr.Within expr.accessorCount expr.accessorCount := by
  induction path with
  | reference => exact Expr.within_of_leaf rfl rfl
  | access _ _ isKey ih =>
      exact Expr.within_access ih (isKey.within.mono (Nat.zero_le _) (Nat.zero_le _))

/-- A factor is as high as it has accessors. -/
theorem IsFactor.within (factor : IsFactor expr) (fits : expr.accessorCount ≤ levels) :
    expr.Within levels levels := by
  cases factor with
  | literal => exact (Expr.within_of_leaf rfl rfl).mono (Nat.zero_le _) (Nat.zero_le _)
  | path path => exact path.within.mono fits fits

/-- A term holds no negation, so its height is bounded by its levels. -/
theorem IsTerm.within (term : IsTerm expr) (nests : expr.TermNests levels) :
    expr.Within levels levels := by
  induction term generalizing levels with
  | factor factor =>
      cases levels with
      | zero => exact absurd nests (not_termNests_zero _)
      | succ levels =>
          have fits := factor.termNests_succ_iff.mp nests
          exact factor.within (Nat.le_succ_of_le fits)
  | product _ factor _ ih =>
      cases levels with
      | zero => exact absurd nests (not_termNests_zero _)
      | succ levels =>
          obtain ⟨fits, nests⟩ := termNests_succ_product_iff.mp nests
          exact Expr.within_operation (factor.within fits) (ih nests)

/-- A term takes two levels at least. -/
theorem IsTerm.within_of_nests (term : IsTerm expr) (nests : expr.Nests levels) :
    2 ≤ levels ∧ expr.Within levels (2 * levels - 3) := by
  match levels with
  | 0 => exact absurd nests (not_nests_zero _)
  | 1 => exact absurd (term.nests_succ_iff.mp nests) (not_termNests_zero _)
  | levels + 2 =>
      have within := term.within (term.nests_succ_iff.mp nests)
      exact ⟨by omega, within.mono (by omega) (by omega)⟩

/-- A sum takes one level more than the formula that is its right operand. -/
theorem within_sum {operator : Operator} {token : Token} {left right : Expr}
    (spelled : additive? token = some operator) (term : IsTerm left)
    (formula : ∀ {levels}, right.Nests levels → 2 ≤ levels ∧ right.Within levels (2 * levels - 2))
    (nests : (Expr.operation operator token left right).Nests levels) :
    2 ≤ levels ∧ (Expr.operation operator token left right).Within levels (2 * levels - 3) := by
  cases levels with
  | zero => exact absurd nests (not_nests_zero _)
  | succ levels =>
      obtain ⟨leftNests, rightNests⟩ := (nests_succ_sum_iff spelled).mp nests
      obtain ⟨enough, second⟩ := formula rightNests
      have first := term.within leftNests
      have within : (Expr.operation operator token left right).Within (levels + 1)
          (2 * levels - 2 + 1) :=
        Expr.within_operation (first.mono (Nat.le_refl _) (by omega)) second
      exact ⟨by omega, within.mono (Nat.le_refl _) (by omega)⟩

/-- **The height of a formula.** A branch has at most as many binary nodes as there are
levels, and at most two edges for each level but the last. -/
theorem IsFormula.within (formula : IsFormula expr) (nests : expr.Nests levels) :
    2 ≤ levels ∧ expr.Within levels (2 * levels - 2) := by
  induction formula generalizing levels with
  | term term =>
      obtain ⟨enough, within⟩ := term.within_of_nests nests
      exact ⟨enough, within.mono (Nat.le_refl _) (by omega)⟩
  | sum spelled term _ ih =>
      obtain ⟨enough, within⟩ := within_sum spelled term ih nests
      exact ⟨enough, within.mono (Nat.le_refl _) (by omega)⟩
  | negatedTerm _ term =>
      obtain ⟨enough, within⟩ := term.within_of_nests (nests_negate_iff.mp nests)
      exact ⟨enough, (Expr.within_negate within).mono (Nat.le_refl _) (by omega)⟩
  | negatedSum _ spelled term _ ih =>
      obtain ⟨enough, within⟩ := within_sum spelled term ih (nests_negate_iff.mp nests)
      exact ⟨enough, (Expr.within_negate within).mono (Nat.le_refl _) (by omega)⟩

end Grammar

namespace Cursor

open Grammar

/-- **Parsed trees are of bounded height.** On every branch of a tree that a cursor parses
there are at most as many operations and accesses as a formula may nest levels, and with
the negations at most twice as many edges less two. -/
theorem parse_branches {cursor after : Cursor} {expr : Expr}
    (parsed : cursor.parse = (.ok expr, after)) :
    ∀ branch ∈ expr.branches, branch.countP Expr.isBinary ≤ maxDepth ∧
      branch.length - 1 ≤ 2 * maxDepth - 2 := by
  obtain ⟨rest, found, -⟩ := parse_eq_ok_iff_found.mp parsed
  obtain ⟨formula, nests, -⟩ := expression_eq_found_iff.mp found
  exact (formula.within nests).2

/-- With a sign before each of 126 terms, of which the last starts with `$a.b` times a number
and stands before one more, both bounds are reached. -/
theorem parse_branches_highest :
    let one : Token := ⟨.integer, "1", .start⟩
    let sign : Token := ⟨.symbol, "-", .start⟩
    let plus : Token := ⟨.symbol, "+", .start⟩
    let last : List Token := [sign, ⟨.reference, "a", .start⟩, ⟨.symbol, ".", .start⟩,
      ⟨.identifier, "b", .start⟩, ⟨.symbol, "*", .start⟩, one, plus, one]
    let tokens := (List.replicate 125 [sign, one, plus]).flatten ++ last
    ∃ expr, Cursor.parse ⟨tokens, 0⟩ = (.ok expr, ⟨tokens, 383⟩) ∧
      (∀ branch ∈ expr.branches, branch.countP Expr.isBinary ≤ 128 ∧ branch.length - 1 ≤ 254) ∧
      ∃ branch ∈ expr.branches, branch.countP Expr.isBinary = 128 ∧ branch.length - 1 = 254 := by
  intro one sign plus last tokens
  have moved : (Cursor.parse ⟨tokens, 0⟩).2 = ⟨tokens, 383⟩ := by decide +kernel
  have found : (Cursor.parse ⟨tokens, 0⟩).1.toOption.any (·.branches[125]?.any fun branch =>
      branch.countP Expr.isBinary = 128 ∧ branch.length - 1 = 254) = true := by decide +kernel
  obtain ⟨expr, result, found⟩ := (Option.any_eq_true _ _).mp found
  obtain ⟨branch, place, highest⟩ := (Option.any_eq_true _ _).mp found
  have parsed : Cursor.parse ⟨tokens, 0⟩ = (.ok expr, ⟨tokens, 383⟩) := by
    refine Prod.ext ?_ moved
    cases outcome : (Cursor.parse ⟨tokens, 0⟩).1 <;> rw [outcome] at result <;> cases result
    rfl
  exact ⟨expr, parsed, parse_branches parsed, branch, List.mem_of_getElem? place,
    of_decide_eq_true highest⟩

end Cursor

end DataFormula
