/-!
# Sets of code points

A property of characters that a standard gives as a table is kept as the closed ranges of its code
points, in ascending order.
-/

namespace RouteCompiler.Text

/-- A set of code points, as closed ranges in ascending order. -/
abbrev CodePoints := List (Nat × Nat)

/-- Whether one of the ranges holds the character. -/
def CodePoints.contains (ranges : CodePoints) (c : Char) : Bool :=
  ranges.any fun (first, last) => first ≤ c.toNat && c.toNat ≤ last

theorem CodePoints.contains_iff {ranges : CodePoints} {c : Char} :
    ranges.contains c = true ↔ ∃ r ∈ ranges, r.1 ≤ c.toNat ∧ c.toNat ≤ r.2 := by
  simp [contains, List.any_eq_true]

end RouteCompiler.Text
