import LootSpawn.Number.Rounding

/-!
# Single-precision numbers

The numbers of the binary interchange format with 24 significant bits. A finite magnitude is a
whole count of the smallest positive number, `2 ^ -149`, so that order and arithmetic are those of
natural numbers followed by one rounding. Both zeros are kept apart, and there is one `nan`.
-/

namespace LootSpawn.Number

namespace Single

/-- How many of the smallest positive number make one. -/
def unitsPerOne : Nat := 1 <<< 149

/-- The first count that is too large to be finite. -/
def unitsBound : Nat := 1 <<< 277

/-- The count is that of a finite number: it is small enough and its significant digits fit. -/
def Fits (units : Nat) : Prop :=
  units < unitsBound ∧ units % (1 <<< (units.log2 - 23)) = 0

instance : DecidablePred Fits := fun units =>
  inferInstanceAs (Decidable (units < unitsBound ∧ units % (1 <<< (units.log2 - 23)) = 0))

end Single

/-- A single-precision number. -/
inductive Single where
  | nan
  | infinite (negative : Bool)
  | finite (negative : Bool) (units : Nat) (fits : Single.Fits units)
  deriving DecidableEq

namespace Single

/-- The number with the given count of units, infinite where the count is that of no finite
number. -/
def ofUnits (negative : Bool) (units : Nat) : Single :=
  if fits : Fits units then .finite negative units fits else .infinite negative

/-- The number nearest to `num / den` units. Rounding leaves digits that fit, so the outcome is
infinite only when the magnitude is too large. -/
def round (negative : Bool) (num den : Nat) : Single :=
  ofUnits negative (roundBits 24 num den)

/-- The number nearest to a natural number. -/
def ofNat (n : Nat) : Single := round false (n * unitsPerOne) 1

def zero : Single := ofNat 0

def one : Single := ofNat 1

def hundred : Single := ofNat 100

instance : Inhabited Single := ⟨zero⟩

/-- The position on the number line in units, with the infinities beyond every finite number. The
two zeros share a position, and `nan` has none. -/
def position? : Single → Option Int
  | .nan => none
  | .infinite negative => some (if negative then -unitsBound else unitsBound)
  | .finite negative units _ => some (if negative then -units else units)

/-- Strictly below; never with `nan`. -/
def lt (x y : Single) : Bool :=
  match x.position?, y.position? with
  | some a, some b => a < b
  | _, _ => false

/-- At or below; never with `nan`. -/
def le (x y : Single) : Bool :=
  match x.position?, y.position? with
  | some a, some b => a ≤ b
  | _, _ => false

/-- Both zeros are zero. -/
def isZero (x : Single) : Bool := x.position? == some 0

def isNaN : Single → Bool
  | .nan => true
  | _ => false

/-- The product, rounded once. -/
def mul : Single → Single → Single
  | .nan, _ => .nan
  | _, .nan => .nan
  | .infinite s, .infinite t => .infinite (s != t)
  | .infinite s, .finite t units _ => if units = 0 then .nan else .infinite (s != t)
  | .finite s units _, .infinite t => if units = 0 then .nan else .infinite (s != t)
  | .finite s units _, .finite t others _ => round (s != t) (units * others) unitsPerOne

instance : Mul Single := ⟨mul⟩

/-- The number that 32 bits stand for: a sign bit, eight bits of exponent and 23 of significand. -/
def ofBits (bits : UInt32) : Single :=
  let negative := bits >>> 31 == 1
  let exponent := (bits >>> 23 &&& 0xFF).toNat
  let significand := (bits &&& 0x7FFFFF).toNat
  if exponent = 0xFF then (if significand = 0 then .infinite negative else .nan)
  else if exponent = 0 then ofUnits negative significand
  else ofUnits negative ((0x800000 + significand) <<< (exponent - 1))

/-- The bits of a magnitude: counts below `2 ^ 23` stand for themselves, and each further binary
digit adds one to the exponent. -/
def magnitudeBits (units : Nat) : Nat :=
  if units < 0x800000 then units
  else
    let extra := units.log2 - 23
    (extra + 1) * 0x800000 + ((units >>> extra) - 0x800000)

/-- The 32 bits of a number; `nan` is written as the quiet one without a payload. -/
def toBits : Single → UInt32
  | .nan => 0x7FC00000
  | .infinite negative => if negative then 0xFF800000 else 0x7F800000
  | .finite negative units _ =>
      UInt32.ofNat (magnitudeBits units) ||| (if negative then 0x80000000 else 0)

end Single

end LootSpawn.Number
