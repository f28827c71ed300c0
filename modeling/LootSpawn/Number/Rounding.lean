/-!
# Rounding to nearest

A quotient is rounded to the nearest whole number, and to the nearest number with a given count of
significant binary digits. A quotient halfway between two candidates goes to the even one.
-/

namespace LootSpawn.Number

/-- The whole number nearest to `num / den`, the even one of two that are equally near. -/
def roundDiv (num den : Nat) : Nat :=
  let quotient := num / den
  let twice := 2 * (num % den)
  if den < twice || (twice == den && quotient % 2 == 1) then quotient + 1 else quotient

/-- A whole quotient is its own rounding. -/
theorem roundDiv_mul_left (n den : Nat) (hden : 0 < den) : roundDiv (n * den) den = n := by
  simp only [roundDiv, Nat.mul_mod_left, Nat.mul_div_cancel n hden, Nat.mul_zero]
  split
  next h => simp at h; omega
  next => rfl

/-- The rounded quotient is at most half too large. -/
theorem two_mul_roundDiv_le (num den : Nat) :
    2 * (roundDiv num den * den) ≤ 2 * num + den := by
  have hsplit := Nat.div_add_mod num den
  rw [Nat.mul_comm] at hsplit
  simp only [roundDiv]
  split
  next h =>
    rw [Nat.add_mul, Nat.one_mul]
    simp only [Bool.or_eq_true, decide_eq_true_eq, Bool.and_eq_true, beq_iff_eq] at h
    omega
  next => omega

/-- The rounded quotient is at most half too small. -/
theorem two_mul_le_roundDiv (num den : Nat) (hden : 0 < den) :
    2 * num ≤ 2 * (roundDiv num den * den) + den := by
  have hsplit := Nat.div_add_mod num den
  rw [Nat.mul_comm] at hsplit
  simp only [roundDiv]
  split
  next h =>
    rw [Nat.add_mul, Nat.one_mul]
    have hlt := Nat.mod_lt num hden
    omega
  next h =>
    simp only [Bool.or_eq_true, decide_eq_true_eq, Bool.and_eq_true, beq_iff_eq, not_or] at h
    omega

/-- The number with at most `bits` significant binary digits nearest to `num / den`. Below
`2 ^ bits` every whole number is one, and above it the candidates are the multiples of a power of
two. -/
def roundBits (bits num den : Nat) : Nat :=
  let unit := 1 <<< ((num / den).log2 + 1 - bits)
  roundDiv num (den * unit) * unit

end LootSpawn.Number
