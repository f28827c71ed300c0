/-!
# Sets of code points given by ranges

Character classes of the text rules are tables of closed ranges. Membership asks for one range that
holds the code point, so a fact about a class is a fact about its table.
-/

namespace LootSpawn.Text

/-- A set of code points, as closed ranges. -/
abbrev CodeRanges := List (Nat × Nat)

namespace CodeRanges

/-- Some range holds the code point. -/
def holds (ranges : CodeRanges) (code : Nat) : Bool :=
  ranges.any fun range => range.1 ≤ code && code ≤ range.2

theorem holds_iff (ranges : CodeRanges) (code : Nat) :
    ranges.holds code = true ↔ ∃ range ∈ ranges, range.1 ≤ code ∧ code ≤ range.2 := by
  simp [holds]

end CodeRanges

end LootSpawn.Text
