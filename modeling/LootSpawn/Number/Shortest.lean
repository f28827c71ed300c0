import LootSpawn.Number.Single

/-!
# The shortest decimal of a number

A single-precision number is written with the fewest significant digits that read back as the same
number, and among those with the ones nearest to it. The text is positional, without an exponent,
and a whole number has no point.
-/

namespace LootSpawn.Number.Single

/-- The numbers nearer to a finite number than to its neighbours, in quarters of a unit. The ends
belong to the interval when the number is the even one, to which a tie is rounded. -/
structure Interval where
  low : Nat
  centre : Nat
  high : Nat
  closed : Bool

/-- The interval of a positive finite magnitude. At a power of two the neighbour below is nearer
than the one above. -/
def interval (units : Nat) : Interval :=
  let gap := 1 <<< (units.log2 - 23)
  let below := if 1 < gap && units == 1 <<< units.log2 then gap else 2 * gap
  ⟨4 * units - below, 4 * units, 4 * units + 2 * gap, units / gap % 2 == 0⟩

namespace Interval

/-- The quotient `num / den`, in quarters of a unit, lies in the interval. -/
def holds (i : Interval) (num den : Nat) : Bool :=
  if i.closed then i.low * den ≤ num && num ≤ i.high * den
  else i.low * den < num && num < i.high * den

/-- The multiple of ten to the power of `exponent` that lies in the interval and is nearest to its
centre, as the factor of that power. -/
def multiple? (i : Interval) (exponent : Int) : Option Nat :=
  let num := 4 * unitsPerOne * Nat.pow 10 exponent.toNat
  let den := Nat.pow 10 (-exponent).toNat
  let below := i.centre * den / num
  let above := below + 1
  match i.holds (below * num) den, i.holds (above * num) den with
  | true, true =>
      some (if i.centre * den - below * num < above * num - i.centre * den then below else above)
  | true, false => some below
  | false, true => some above
  | false, false => none

/-- The decimal with the fewest digits: the first grid, from the widest to the finest, that has a
multiple in the interval. -/
def shortest? (i : Interval) : Option (Nat × Int) :=
  (List.range 84).findSome? fun (step : Nat) =>
    let exponent := 38 - (step : Int)
    (i.multiple? exponent).map (·, exponent)

end Interval

/-- The positional text of `digits` times ten to the power of `exponent`. -/
def positional (digits : Nat) (exponent : Int) : List Char :=
  let text := Nat.toDigits 10 digits
  if 0 ≤ exponent then text ++ List.replicate exponent.toNat '0'
  else
    let places := (-exponent).toNat
    let padded := List.replicate (places + 1 - text.length) '0' ++ text
    padded.take (padded.length - places) ++ '.' :: padded.drop (padded.length - places)

/-- The text of a finite magnitude. -/
def magnitudeText (units : Nat) : List Char :=
  if units = 0 then ['0']
  else match (interval units).shortest? with
    | some (digits, exponent) => positional digits exponent
    | none => []

/-- The shortest text that reads back as the number. -/
def text : Single → String
  | .nan => "NaN"
  | .infinite negative => if negative then "-inf" else "inf"
  | .finite negative units _ =>
      String.ofList ((if negative then ['-'] else []) ++ magnitudeText units)

end LootSpawn.Number.Single
