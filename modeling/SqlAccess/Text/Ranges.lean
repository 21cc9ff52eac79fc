/-!
# Sets of characters as ranges

A character property is a list of closed ranges of code points. Membership is a
scan; the tables that use it are small and the texts are names and types, so no
index is kept.
-/

namespace SqlAccess.Text

/-- Closed ranges of code points. -/
abbrev Ranges := List (Nat × Nat)

/-- True when some range holds the character's code point. -/
def Ranges.holds (ranges : Ranges) (c : Char) : Bool :=
  ranges.any fun range => range.1 ≤ c.toNat && c.toNat ≤ range.2

/-- Membership is an upper and a lower bound by one listed range. -/
theorem Ranges.holds_iff (ranges : Ranges) (c : Char) :
    ranges.holds c = true ↔
      ∃ range ∈ ranges, range.1 ≤ c.toNat ∧ c.toNat ≤ range.2 := by
  simp [Ranges.holds]

end SqlAccess.Text
