import LootSpawn.Proofs.Number.Positional
import Mathlib.Tactic.Ring

/-!
# The range of rounding

A quotient is rounded to a finite number exactly if it lies below the halfway point between the
largest finite number and the power of two after it. At that point the tie goes to the even
neighbour, which is the power of two, so the point itself is already too large.
-/

namespace LootSpawn.Number

/-! ## Rounded quotients -/

theorem le_roundDiv {n num den : Nat} (hden : 0 < den) (h : n * den ≤ num) :
    n ≤ roundDiv num den := by
  have hquotient : n ≤ num / den := (Nat.le_div_iff_mul_le hden).mpr h
  simp only [roundDiv]
  split
  next => omega
  next => exact hquotient

theorem roundDiv_le {n num den : Nat} (hden : 0 < den) (h : num ≤ n * den) :
    roundDiv num den ≤ n := by
  by_contra hlt
  have hmul : (n + 1) * den ≤ roundDiv num den * den := Nat.mul_le_mul_right den (by omega)
  have hhalf := two_mul_roundDiv_le num den
  rw [Nat.add_mul, Nat.one_mul] at hmul
  omega

/-- A quotient is rounded to less than an even number if it is less by more than a half. -/
theorem roundDiv_lt_iff {n num den : Nat} (hden : 0 < den) (heven : n % 2 = 0) :
    roundDiv num den < n ↔ 2 * num + den < 2 * (n * den) := by
  have hsplit := Nat.div_add_mod num den
  rw [Nat.mul_comm] at hsplit
  have hmod := Nat.mod_lt num hden
  rcases Nat.lt_trichotomy (num / den + 1) n with hbelow | hat | habove
  · have hmul : (num / den + 1 + 1) * den ≤ n * den := Nat.mul_le_mul_right den hbelow
    rw [Nat.add_mul, Nat.add_mul, Nat.one_mul] at hmul
    have hround : roundDiv num den ≤ num / den + 1 := by
      simp only [roundDiv]
      split
      next => exact Nat.le_refl _
      next => exact Nat.le_succ _
    exact iff_of_true (by omega) (by omega)
  · -- The quotient lies in the last step before the number, and its floor is odd.
    have hodd : num / den % 2 = 1 := by omega
    have hmul : n * den = num / den * den + den := by rw [← hat, Nat.add_mul, Nat.one_mul]
    simp only [roundDiv, hodd, beq_self_eq_true, Bool.and_true, Bool.or_eq_true, decide_eq_true_eq,
      beq_iff_eq]
    split
    next => exact iff_of_false (by omega) (by omega)
    next => exact iff_of_true (by omega) (by omega)
  · have hmul : n * den ≤ num / den * den := Nat.mul_le_mul_right den (by omega)
    have hround : n ≤ roundDiv num den := le_roundDiv hden (by omega)
    exact iff_of_false (by omega) (by omega)

/-! ## Significant digits -/

/-- How many binary digits of the quotient are rounded off. -/
def droppedBits (bits num den : Nat) : Nat := (num / den).log2 + 1 - bits

/-- What is left of the quotient after rounding, without the digits rounded off. -/
def significand (bits num den : Nat) : Nat :=
  roundDiv num (den * 2 ^ droppedBits bits num den)

theorem roundBits_eq (bits num den : Nat) :
    roundBits bits num den = significand bits num den * 2 ^ droppedBits bits num den := by
  rw [roundBits, significand, droppedBits, Nat.one_shiftLeft]

variable {bits num den : Nat}

theorem significand_le (hden : 0 < den) : significand bits num den ≤ 2 ^ bits := by
  apply roundDiv_le (Nat.mul_pos hden (Nat.two_pow_pos _))
  have hquotient : num / den < 2 ^ (bits + droppedBits bits num den) :=
    Nat.lt_of_lt_of_le Nat.lt_log2_self
      (Nat.pow_le_pow_right Nat.two_pos (by rw [droppedBits]; omega))
  calc num ≤ 2 ^ (bits + droppedBits bits num den) * den :=
        ((Nat.div_lt_iff_lt_mul hden).mp hquotient).le
    _ = 2 ^ bits * (den * 2 ^ droppedBits bits num den) := by ring

/-- Rounding does not lose the first binary digit. -/
theorem two_pow_log2_le_roundBits (hbits : 0 < bits) (hden : 0 < den) (hquotient : num / den ≠ 0) :
    2 ^ (num / den).log2 ≤ roundBits bits num den := by
  have hsplit : (num / den).log2 =
      (num / den).log2 - droppedBits bits num den + droppedBits bits num den := by
    rw [droppedBits]
    omega
  have hnum : 2 ^ (num / den).log2 * den ≤ num :=
    (Nat.mul_le_mul_right den (Nat.log2_self_le hquotient)).trans (Nat.div_mul_le_self num den)
  rw [roundBits_eq, hsplit, Nat.pow_add]
  apply Nat.mul_le_mul_right
  apply le_roundDiv (Nat.mul_pos hden (Nat.two_pow_pos _))
  calc 2 ^ ((num / den).log2 - droppedBits bits num den) * (den * 2 ^ droppedBits bits num den)
      = 2 ^ ((num / den).log2 - droppedBits bits num den + droppedBits bits num den) * den := by
        ring
    _ = 2 ^ (num / den).log2 * den := by rw [← hsplit]
    _ ≤ num := hnum

/-- A number with so many significant digits ends in zeros from there on, also if rounding has
carried it to the next power of two. -/
theorem two_pow_dvd_of_le {significand dropped : Nat} (hbits : 0 < bits)
    (h : significand ≤ 2 ^ bits) :
    2 ^ ((significand * 2 ^ dropped).log2 + 1 - bits) ∣ significand * 2 ^ dropped := by
  rcases Nat.eq_zero_or_pos significand with rfl | hpos
  · rw [Nat.zero_mul]
    exact Nat.dvd_zero _
  rcases Nat.lt_or_eq_of_le h with hlt | rfl
  · have hne : significand * 2 ^ dropped ≠ 0 :=
      Nat.ne_of_gt (Nat.mul_pos hpos (Nat.two_pow_pos dropped))
    have hlog : (significand * 2 ^ dropped).log2 < bits + dropped := by
      rw [Nat.log2_lt hne, Nat.pow_add]
      exact Nat.mul_lt_mul_of_pos_right hlt (Nat.two_pow_pos dropped)
    exact (Nat.pow_dvd_pow 2 (by omega)).trans (Nat.dvd_mul_left _ _)
  · rw [← Nat.pow_add, Nat.log2_two_pow]
    exact Nat.pow_dvd_pow 2 (by omega)

/-! ## Finite numbers -/

namespace Single

def isFinite : Single → Bool
  | .finite .. => true
  | _ => false

/-- Halfway between the largest finite number and the power of two after it. -/
def overflowBound : Nat := 2 ^ 128 - 2 ^ 103

theorem unitsBound_eq : unitsBound = 2 ^ 24 * 2 ^ 253 := by
  rw [unitsBound, Nat.one_shiftLeft, show 277 = 24 + 253 from rfl, Nat.pow_add 2 24 253]

theorem two_mul_overflowBound : 2 * (overflowBound * unitsPerOne) + 2 ^ 253 = 2 ^ 25 * 2 ^ 253 := by
  decide

theorem overflowBound_bounds : 2 ^ 23 * 2 ^ 253 ≤ overflowBound * unitsPerOne ∧
    overflowBound * unitsPerOne ≤ unitsBound := by
  have htwice := two_mul_overflowBound
  rw [unitsBound_eq]
  omega

theorem roundBits_lt_unitsBound_iff (hden : 0 < den) :
    roundBits 24 num den < unitsBound ↔ num < overflowBound * unitsPerOne * den := by
  obtain ⟨hlow, hhigh⟩ := overflowBound_bounds
  rcases Nat.lt_trichotomy (num / den).log2 276 with hbelow | hat | habove
  · have hround : roundBits 24 num den ≤ 2 ^ 24 * 2 ^ 252 := by
      rw [roundBits_eq]
      exact Nat.mul_le_mul (significand_le hden)
        (Nat.pow_le_pow_right Nat.two_pos (by rw [droppedBits]; omega))
    have hunits : 2 ^ 24 * 2 ^ 252 < unitsBound := by
      rw [unitsBound_eq]
      exact Nat.mul_lt_mul_of_pos_left (Nat.pow_lt_pow_right (by decide) (by decide)) (by decide)
    have hpow : 2 ^ ((num / den).log2 + 1) ≤ 2 ^ 23 * 2 ^ 253 :=
      (Nat.pow_le_pow_right Nat.two_pos (by omega)).trans_eq (Nat.pow_add 2 23 253)
    have hquotient : num / den < overflowBound * unitsPerOne :=
      Nat.lt_log2_self.trans_le (hpow.trans hlow)
    exact iff_of_true (hround.trans_lt hunits) ((Nat.div_lt_iff_lt_mul hden).mp hquotient)
  · -- The power of two after the largest finite number is reached by its significand alone.
    have hdropped : droppedBits 24 num den = 253 := by rw [droppedBits, hat]
    have hscaled : 2 * (overflowBound * unitsPerOne * den) + den * 2 ^ 253 =
        2 * (2 ^ 24 * (den * 2 ^ 253)) := by
      calc 2 * (overflowBound * unitsPerOne * den) + den * 2 ^ 253
          = (2 * (overflowBound * unitsPerOne) + 2 ^ 253) * den := by ring
        _ = 2 ^ 25 * 2 ^ 253 * den := by rw [two_mul_overflowBound]
        _ = 2 * (2 ^ 24 * (den * 2 ^ 253)) := by ring
    rw [roundBits_eq, unitsBound_eq, hdropped, Nat.mul_lt_mul_right (Nat.two_pow_pos 253),
      significand, hdropped, roundDiv_lt_iff (Nat.mul_pos hden (Nat.two_pow_pos 253)) (by decide)]
    omega
  · have hne : num / den ≠ 0 := by
      intro hzero
      rw [hzero] at habove
      exact absurd habove (by decide)
    have hpow : unitsBound ≤ 2 ^ (num / den).log2 := by
      calc unitsBound = 2 ^ 24 * 2 ^ 253 := unitsBound_eq
        _ ≤ 2 ^ 24 * 2 ^ ((num / den).log2 - 24) :=
          Nat.mul_le_mul_left _ (Nat.pow_le_pow_right Nat.two_pos (by omega))
        _ = 2 ^ (num / den).log2 := by rw [← Nat.pow_add, Nat.add_sub_of_le (by omega)]
    have hround : 2 ^ (num / den).log2 ≤ roundBits 24 num den :=
      two_pow_log2_le_roundBits (by decide) hden hne
    have hquotient : overflowBound * unitsPerOne ≤ num / den :=
      hhigh.trans (hpow.trans (Nat.log2_self_le hne))
    exact iff_of_false (hpow.trans hround).not_gt
      ((Nat.le_div_iff_mul_le hden).mp hquotient).not_gt

theorem fits_roundBits_iff (hden : 0 < den) :
    Fits (roundBits 24 num den) ↔ num < overflowBound * unitsPerOne * den := by
  rw [← roundBits_lt_unitsBound_iff hden, Fits, and_iff_left]
  rw [Nat.one_shiftLeft, roundBits_eq, ← Nat.add_sub_add_right _ 1 23]
  exact Nat.mod_eq_zero_of_dvd (two_pow_dvd_of_le (by decide) (significand_le hden))

/-- A quotient is rounded to an infinite number exactly from the halfway point on. -/
theorem round_eq_infinite_iff (negative sign : Bool) (hden : 0 < den) :
    round negative num den = .infinite sign ↔
      negative = sign ∧ overflowBound * unitsPerOne * den ≤ num := by
  rw [round, ofUnits]
  split
  next hfits =>
    have hlt := (fits_roundBits_iff hden).mp hfits
    exact iff_of_false nofun fun h => absurd h.2 hlt.not_ge
  next hfits =>
    have hle := Nat.not_lt.mp fun hlt => hfits ((fits_roundBits_iff hden).mpr hlt)
    simp [hle]

theorem ofUnits_zero (negative : Bool) : ofUnits negative 0 = .finite negative 0 (by decide) := rfl

theorem ofUnits_ne_nan (negative : Bool) (units : Nat) : ofUnits negative units ≠ .nan := by
  rw [ofUnits]
  split
  next => nofun
  next => nofun

end Single

/-! ## Decimals -/

namespace Decimal

theorem toSingle_ne_nan (d : Decimal) : d.toSingle ≠ .nan := by
  rw [toSingle]
  split
  next => exact Single.ofUnits_ne_nan _ _
  split
  next => nofun
  split
  next => exact Single.ofUnits_ne_nan _ _
  dsimp only
  split
  next => exact Single.ofUnits_ne_nan _ _
  next => exact Single.ofUnits_ne_nan _ _

/-- The exponent that settles a small number without its power of ten. -/
theorem digits_lt_of_small {digits places : Nat} (h : digits.log2 + 151 ≤ 3 * places) :
    digits < 10 ^ places := by
  calc digits < 2 ^ (digits.log2 + 1) := Nat.lt_log2_self
    _ ≤ 2 ^ (3 * places) := Nat.pow_le_pow_right Nat.two_pos (by omega)
    _ = (2 ^ 3) ^ places := Nat.pow_mul 2 3 places
    _ ≤ 10 ^ places := Nat.pow_le_pow_left (by decide) places

theorem toSingle_eq_infinite_iff {d : Decimal} (hexponent : d.exponent ≤ 0) (sign : Bool) :
    d.toSingle = .infinite sign ↔
      d.negative = sign ∧ Single.overflowBound * 10 ^ (-d.exponent).toNat ≤ d.digits := by
  have hbound : 1 ≤ Single.overflowBound := by decide
  have hunits : 0 < Single.unitsPerOne := by decide
  have hscale : ∀ places, Single.overflowBound * Single.unitsPerOne * 10 ^ places ≤
      d.digits * Single.unitsPerOne ↔ Single.overflowBound * 10 ^ places ≤ d.digits := by
    intro places
    rw [Nat.mul_right_comm, Nat.mul_le_mul_right_iff hunits]
  have hpow : ∀ places, 10 ^ places ≤ Single.overflowBound * 10 ^ places := fun places =>
    Nat.le_mul_of_pos_left (10 ^ places) hbound
  rw [toSingle]
  split
  next hzero =>
    rw [Single.ofUnits_zero, hzero]
    have hpos := (Nat.pow_pos (by decide : 0 < 10)).trans_le (hpow (-d.exponent).toNat)
    exact iff_of_false nofun fun h => absurd h.2 hpos.not_ge
  split
  next hlarge => omega
  split
  next hwhole =>
    have hnone : d.exponent = 0 := Int.le_antisymm hexponent hwhole
    rw [Single.round_eq_infinite_iff _ _ Nat.one_pos, hnone]
    simpa using fun _ => hscale 0
  next =>
    dsimp only
    split
    next hsmall =>
      rw [Single.ofUnits_zero]
      have hlt := (digits_lt_of_small hsmall).trans_le (hpow (-d.exponent).toNat)
      exact iff_of_false nofun fun h => absurd h.2 hlt.not_ge
    next =>
      rw [Nat.pow_eq, Single.round_eq_infinite_iff _ _ (Nat.pow_pos (by decide)),
        and_congr_right_iff]
      exact fun _ => hscale _

end Decimal

namespace DecimalForm

/-- The decimal lies below the point from which on numbers are rounded to infinity. -/
def InRange (form : DecimalForm) : Prop :=
  placeValue (form.whole ++ form.fraction.getD []) <
    Single.overflowBound * 10 ^ (form.fraction.getD []).length

theorem number_eq_infinite_iff (form : DecimalForm) (sign : Bool) :
    form.number = .infinite sign ↔ form.negative = sign ∧ ¬ form.InRange := by
  rw [number, Decimal.toSingle_eq_infinite_iff (by simp [decimal, Decimal.ofParts]), InRange,
    Nat.not_lt]
  simp [decimal, Decimal.ofParts, valueOfDigits_eq_placeValue]

theorem number_ne_nan (form : DecimalForm) : form.number ≠ .nan := form.decimal.toSingle_ne_nan

end DecimalForm

end LootSpawn.Number
