import LootSpawn.Proofs.Number.DecimalForm
import Mathlib.Data.List.Induction
import Mathlib.Data.Nat.Digits.Defs

/-!
# Positional value

Digits stand for a natural number by their places: the last one for ones, the one before for tens.
The value that is read off a text from front to back is this number.
-/

namespace LootSpawn.Number

/-- The number of a single digit. -/
def digitValue (c : Char) : Nat := c.toNat - '0'.toNat

/-- The number of a sequence of digits by their places, the last place first. -/
def placeValue (cs : List Char) : Nat := Nat.ofDigits 10 (cs.reverse.map digitValue)

theorem placeValue_concat (cs : List Char) (c : Char) :
    placeValue (cs ++ [c]) = placeValue cs * 10 + digitValue c := by
  rw [placeValue, List.reverse_concat, List.map_cons, Nat.ofDigits_cons, placeValue]
  omega

theorem valueOfDigits_eq_placeValue (cs : List Char) : valueOfDigits cs = placeValue cs := by
  induction cs using List.reverseRecOn with
  | nil => rfl
  | append_singleton cs c ih =>
      rw [placeValue_concat, ← ih, valueOfDigits, List.foldl_append]
      rfl

theorem natural?_eq_some_iff (cs : List Char) (value : Nat) :
    natural? cs = some value ↔ IsDigits cs ∧ placeValue cs = value := by
  rw [natural?, ← valueOfDigits_eq_placeValue]
  constructor
  · intro h
    split at h
    next hdigits =>
      simp only [Bool.and_eq_true, Bool.not_eq_true', List.isEmpty_eq_false_iff,
        List.all_eq_true] at hdigits
      exact ⟨hdigits, Option.some.inj h⟩
    next => cases h
  · rintro ⟨hdigits, rfl⟩
    rw [if_pos]
    simp only [Bool.and_eq_true, Bool.not_eq_true', List.isEmpty_eq_false_iff, List.all_eq_true]
    exact hdigits

end LootSpawn.Number
