import LootSpawn.Number.Single

/-!
# Decimal numbers

Two written forms are read. A plain decimal is an optional minus, digits, and optionally a point
with digits on both sides. A scientific one also allows a plus, a point with digits on one side
only, and an exponent. Digits are the ten ASCII digits.
-/

namespace LootSpawn.Number

/-- A signed decimal: `digits` times ten to the power of `exponent`. -/
structure Decimal where
  negative : Bool
  digits : Nat
  exponent : Int
  deriving Repr, DecidableEq

/-- The character is one of the ten ASCII digits. -/
def isDigit (c : Char) : Bool := '0' ≤ c && c ≤ '9'

/-- The value of a sequence of digits. -/
def valueOfDigits (cs : List Char) : Nat :=
  cs.foldl (fun value c => value * 10 + (c.toNat - '0'.toNat)) 0

/-- The value of a text that is one or more digits. -/
def natural? (cs : List Char) : Option Nat :=
  if !cs.isEmpty && cs.all isDigit then some (valueOfDigits cs) else none

namespace Decimal

/-- The nearest single-precision number. Exponents far outside the range of the format are settled
without computing the power: below half the smallest number the outcome is zero. -/
def toSingle (d : Decimal) : Single :=
  if d.digits = 0 then Single.ofUnits d.negative 0
  else if 39 ≤ d.exponent then .infinite d.negative
  else if 0 ≤ d.exponent then
    Single.round d.negative (d.digits * Nat.pow 10 d.exponent.toNat * Single.unitsPerOne) 1
  else
    let places := (-d.exponent).toNat
    if d.digits.log2 + 151 ≤ 3 * places then Single.ofUnits d.negative 0
    else Single.round d.negative (d.digits * Single.unitsPerOne) (Nat.pow 10 places)

/-- The decimal with the given whole and fractional digits, shifted by `exponent` places. -/
def ofParts (negative : Bool) (whole fraction : List Char) (exponent : Int) : Decimal :=
  ⟨negative, valueOfDigits (whole ++ fraction), exponent - fraction.length⟩

/-- Takes a minus off the front. -/
def minus (cs : List Char) : Bool × List Char :=
  match cs with
  | [] => (false, [])
  | c :: rest => if c == '-' then (true, rest) else (false, c :: rest)

/-- Takes a minus or a plus off the front. -/
def sign (cs : List Char) : Bool × List Char :=
  match cs with
  | [] => (false, [])
  | c :: rest =>
      if c == '-' then (true, rest) else if c == '+' then (false, rest) else (false, c :: rest)

/-- Takes a point and the digits after it off the front; there are none without a point. -/
def fraction (cs : List Char) : List Char × List Char :=
  match cs with
  | [] => ([], [])
  | c :: rest => if c == '.' then rest.span isDigit else ([], c :: rest)

/-- Reads a plain decimal. -/
def plain? (cs : List Char) : Option Decimal :=
  let (negative, body) := minus cs
  let (whole, rest) := body.span isDigit
  if whole.isEmpty then none
  else match rest with
    | [] => some (ofParts negative whole [] 0)
    | c :: digits =>
        if c == '.' && !digits.isEmpty && digits.all isDigit then
          some (ofParts negative whole digits 0)
        else none

/-- Reads the part of a scientific decimal after its digits: nothing, or an exponent. -/
def exponent? (cs : List Char) : Option Int :=
  match cs with
  | [] => some 0
  | c :: rest =>
      if c == 'e' || c == 'E' then
        let (negative, digits) := sign rest
        (natural? digits).map fun n => if negative then -n else n
      else none

/-- Reads a scientific decimal. -/
def scientific? (cs : List Char) : Option Decimal :=
  let (negative, body) := sign cs
  let (whole, rest) := body.span isDigit
  let (places, tail) := fraction rest
  if whole.isEmpty && places.isEmpty then none
  else (exponent? tail).map (ofParts negative whole places)

end Decimal

end LootSpawn.Number
