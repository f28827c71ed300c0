import LootSpawn.Number.Rounding

/-!
# Percentages

The share of a count in a total, as a percentage with one decimal place. The quotient is first
rounded to 53 significant bits, the precision of a double, and the decimal place is then chosen from
that number; both times a tie goes to the even neighbour.
-/

namespace LootSpawn.Number

/-- The text of `100 * count / total` with one decimal place. -/
def percentText (count total : Nat) : String :=
  let unitsPerOne := 1 <<< 1074
  let units := roundBits 53 (count * 100 * unitsPerOne) total
  let tenths := roundDiv (units * 10) unitsPerOne
  s!"{tenths / 10}.{tenths % 10}"

end LootSpawn.Number
