/-! # Sets of code points

A character class is a list of closed intervals of code points, in increasing order. -/

namespace RowDecl.Text

/-- A set of code points as closed intervals `(first, last)`. -/
abbrev Intervals := List (Nat × Nat)

/-- Whether some interval holds the character. -/
def Intervals.holds (is : Intervals) (c : Char) : Bool :=
  is.any fun (first, last) => first ≤ c.toNat && c.toNat ≤ last

theorem Intervals.holds_iff {is : Intervals} {c : Char} :
    is.holds c = true ↔ ∃ p ∈ is, p.1 ≤ c.toNat ∧ c.toNat ≤ p.2 := by
  simp [holds]

end RowDecl.Text
