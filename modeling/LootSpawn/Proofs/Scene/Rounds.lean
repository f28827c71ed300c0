import LootSpawn.Config
import LootSpawn.Proofs.Number.SingleRange
import LootSpawn.Proofs.Scene.Calls
import LootSpawn.Proofs.Scene.SteadyHost

/-!
# Rounds of attempts

A sequence of activations is one round of attempts after the other: what is reported and what the
collaborators note is accounted for by these rounds. A directive whose declared chance is zero fares
the same in all of them, since its chance stays zero or becomes undefined under any multipliers: it
is never rolled for, and never placed.
-/

namespace LootSpawn

open Number

variable {σ τ ρ Asset Handle α : Type}

namespace Resolver

/-! ## One activation -/

/-- The round of an activation has one attempt for each directive of the scene, and none if the
scene is not played. -/
def AttemptsAll (resolver : Resolver σ τ ρ Asset Handle) (activation : Activation)
    (round : List (Directive × Attempt Asset Handle)) : Prop :=
  round.map Prod.fst =
    if resolver.ignores activation.2 then [] else activation.1.directives activation.2

/-- What is reported of the round of an activation. -/
def roundReport (resolver : Resolver σ τ ρ Asset Handle) (activation : Activation)
    (round : List (Directive × Attempt Asset Handle)) : Option (Report Handle) :=
  if resolver.ignores activation.2 then none
  else some (resolver.reportOf (sceneKey activation.2) round)

theorem exists_round (resolver : Resolver σ τ ρ Asset Handle) (listener : α → Report Handle → α)
    (stage : Stage σ τ ρ) (audience : α) (activation : Activation) :
    ∃ (round : List (Directive × Attempt Asset Handle)) (after : Stage σ τ ρ) (heard : α),
      resolver.AttemptsAll activation round ∧ resolver.FaresAll stage round after ∧
      resolver.activate activation.1 listener activation.2 stage audience =
        (resolver.roundReport activation round, after, heard) ∧
      ∀ notes, resolver.noting.activate activation.1 listener activation.2
          (stage.withNotes notes) audience =
        (resolver.roundReport activation round, after.withNotes (notes ++ resolver.notesOf round),
          heard) := by
  obtain ⟨store, scene⟩ := activation
  have hnoting : resolver.noting.ignores scene = resolver.ignores scene := rfl
  simp only [AttemptsAll, roundReport, activate, hnoting]
  cases resolver.ignores scene with
  | true => exact ⟨[], stage, audience, by simp, .nil stage, by simp, by simp⟩
  | false =>
      obtain ⟨attempts, after, hfst, hall⟩ :=
        resolver.exists_faresAll stage (store.directives (sceneKey scene))
      refine ⟨attempts, after, listener audience (resolver.reportOf (sceneKey scene) attempts),
        ?_, hall, ?_, fun notes => ?_⟩
      · rw [hfst, SpawnStore.directives_sceneKey]
        rfl
      · simp only [hall.resolve_eq hfst, Bool.false_eq_true, if_false]
      · simp only [hall.resolve_noting hfst, Bool.false_eq_true, if_false]

/-! ## A sequence of activations -/

/-- A sequence of activations goes through these rounds. The reports are those of the rounds, and
host, scaler and random source note the calls of the rounds, in order. -/
structure GoesThrough (resolver : Resolver σ τ ρ Asset Handle) (listener : α → Report Handle → α)
    (stage : Stage σ τ ρ) (audience : α) (activations : List Activation)
    (rounds : List (List (Directive × Attempt Asset Handle))) : Prop where
  attempts : List.Forall₂ resolver.AttemptsAll activations rounds
  rolls : ∀ round ∈ rounds, ∀ entry ∈ round, entry.2.RollsRightly
  follows : ∀ {scale}, resolver.scaler.Steady scale →
    ∀ round ∈ rounds, ∀ entry ∈ round, Attempt.Follows scale entry
  notes : ∃ after heard,
    resolver.activateAll listener stage audience activations =
      (List.zipWith resolver.roundReport activations rounds, after, heard) ∧
    ∀ notes, resolver.noting.activateAll listener (stage.withNotes notes) audience activations =
      (List.zipWith resolver.roundReport activations rounds,
        after.withNotes (notes ++ resolver.notesOf rounds.flatten), heard)

theorem exists_rounds (resolver : Resolver σ τ ρ Asset Handle) (listener : α → Report Handle → α)
    (stage : Stage σ τ ρ) (audience : α) (activations : List Activation) :
    ∃ rounds, resolver.GoesThrough listener stage audience activations rounds := by
  induction activations generalizing stage audience with
  | nil =>
      exact ⟨[], .nil, by simp, by simp, stage, audience, rfl, by simp [activateAll]⟩
  | cons activation rest ih =>
      obtain ⟨round, middle, heard, hround, hfares, hone, hnoted⟩ :=
        resolver.exists_round listener stage audience activation
      obtain ⟨rounds, hrounds, hrolls, hfollows, after, told, hrest, hrestNoted⟩ := ih middle heard
      refine ⟨round :: rounds, .cons hround hrounds,
        List.forall_mem_cons.mpr ⟨hfares.rollsRightly, hrolls⟩,
        fun hscaler => List.forall_mem_cons.mpr ⟨hfares.follows hscaler, hfollows hscaler⟩,
        after, told, ?_, fun notes => ?_⟩
      · simp only [activateAll, hone, hrest, List.zipWith_cons_cons]
      · simp only [activateAll, hnoted, hrestNoted, List.zipWith_cons_cons, List.flatten_cons,
          notesOf_append, Notes.append_assoc]

end Resolver

/-! ## Hopeless directives -/

namespace Number.Single

theorem isZero_iff (x : Single) : x.isZero = true ↔ ∃ negative, x = ofUnits negative 0 := by
  simp only [ofUnits_zero]
  cases x with
  | nan =>
      refine iff_of_false (by decide) ?_
      rintro ⟨_, h⟩
      cases h
  | infinite negative =>
      refine iff_of_false ?_ ?_
      · cases negative with
        | _ => decide
      · rintro ⟨_, h⟩
        cases h
  | finite negative units fits =>
      cases negative with
      | _ => simp [isZero, position?]

theorem round_zero (negative : Bool) (den : Nat) : round negative 0 den = ofUnits negative 0 := by
  simp [round, roundBits, roundDiv]

/-- A product with zero is zero, or undefined if the other factor is not finite. -/
theorem isZero_or_isNaN_mul {x : Single} (hx : x.isZero = true ∨ x.isNaN = true) (y : Single) :
    (x * y).isZero = true ∨ (x * y).isNaN = true := by
  rcases hx with hzero | hnan
  · obtain ⟨negative, rfl⟩ := (isZero_iff x).mp hzero
    cases y with
    | nan => exact Or.inr rfl
    | infinite sign => exact Or.inr rfl
    | finite sign units fits =>
        have hproduct : ofUnits negative 0 * finite sign units fits =
            round (negative != sign) (0 * units) unitsPerOne := rfl
        rw [hproduct, Nat.zero_mul, round_zero]
        exact Or.inl ((isZero_iff _).mpr ⟨_, rfl⟩)
  · cases x with
    | nan => exact Or.inr rfl
    | _ => cases hnan

theorem le_zero_of_isZero {x : Single} (h : x.isZero = true) : x.le .zero = true := by
  obtain ⟨negative, rfl⟩ := (isZero_iff x).mp h
  cases negative with
  | _ => rfl

end Number.Single

/-- No multipliers make a chance of zero worth a roll. -/
theorem ChanceScaler.isHopeless_adjust (scaler : ChanceScaler) {directive : Directive}
    (h : directive.chance.isZero = true) :
    Resolver.isHopeless (scaler.adjust directive.chance directive) = true := by
  have hscaled := Single.isZero_or_isNaN_mul (Single.isZero_or_isNaN_mul (Or.inl h)
    scaler.multiplier) (scaler.tagMultiplier directive.tag)
  rw [Resolver.isHopeless_eq_true_iff]
  exact hscaled.symm.imp_right Single.le_zero_of_isZero

/-- An attempt at a directive with a hopeless chance never gets as far as a roll. -/
theorem Attempt.RollsRightly.of_isHopeless {scale : Scaling} {directive : Directive}
    {attempt : Attempt Asset Handle} (hrolls : attempt.RollsRightly)
    (hfollows : Attempt.Follows scale (directive, attempt))
    (hhopeless : Resolver.isHopeless (scale directive.chance directive) = true) :
    attempt = .missing ∨ ∃ asset chance, attempt = .hopeless asset chance := by
  have hnot : attempt.isRolled ≠ true := by
    intro hrolled
    obtain ⟨chance, hchance, hhope⟩ := hrolls.mp hrolled
    rw [← hfollows chance hchance, (Resolver.isHopeless_eq_false_iff _).mpr hhope] at hhopeless
    cases hhopeless
  cases attempt with
  | missing => exact Or.inl rfl
  | hopeless asset chance => exact Or.inr ⟨asset, chance, rfl⟩
  | lost => exact absurd rfl hnot
  | placed => exact absurd rfl hnot

end LootSpawn
