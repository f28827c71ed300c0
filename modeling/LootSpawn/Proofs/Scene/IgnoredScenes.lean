import LootSpawn.Proofs.Scene.Rounds
import LootSpawn.Proofs.Scene.Spellings
import Mathlib.Data.List.ReduceOption

/-!
# Ignored scenes leave no trace

Around a resolver directives are recorded and scenes are activated, in any order. An activation of a
scene that is not played has no report, asks nobody anything and is heard of by nobody, so a history
without such activations has the same reports and the same calls and ends in the same state. Every
other activation has one report, which the listener hears once and in its turn.
-/

namespace LootSpawn

open Number

variable {σ τ ρ Asset Handle α : Type}

/-- Something that happens around a resolver. -/
inductive Occasion where
  | recorded (scene : String) (directive : Directive)
  | activated (scene : String)

/-- The activations among occasions, each with the spawns that are recorded by then. -/
def Occasion.activations (store : SpawnStore) : List Occasion → List Activation
  | [] => []
  | .recorded scene directive :: rest => activations (store.record scene directive) rest
  | .activated scene :: rest => (store, scene) :: activations store rest

/-- What there is around a resolver: the recorded spawns, the states of its collaborators, and that
of its listener. -/
structure Surroundings (σ τ ρ α : Type) where
  store : SpawnStore
  stage : Stage σ τ ρ
  audience : α

/-- The surroundings with the notes of all collaborators. -/
def Surroundings.withNotes (around : Surroundings σ τ ρ α) (notes : Notes Asset Handle) :
    Surroundings (σ × List (HostCall Asset Handle)) (τ × List Adjustment)
      (ρ × List (Single × Bool)) α :=
  ⟨around.store, around.stage.withNotes notes, around.audience⟩

namespace Resolver

/-- The answers to an occasion, one if it is an activation, and what it leaves. -/
def step (resolver : Resolver σ τ ρ Asset Handle) (listener : α → Report Handle → α)
    (around : Surroundings σ τ ρ α) :
    Occasion → List (Option (Report Handle)) × Surroundings σ τ ρ α
  | .recorded scene directive => ([], { around with store := around.store.record scene directive })
  | .activated scene =>
      let (answer, stage, audience) :=
        resolver.activate around.store listener scene around.stage around.audience
      ([answer], ⟨around.store, stage, audience⟩)

/-- The answers to occasions in order, and what they leave. -/
def follow (resolver : Resolver σ τ ρ Asset Handle) (listener : α → Report Handle → α)
    (around : Surroundings σ τ ρ α) :
    List Occasion → List (Option (Report Handle)) × Surroundings σ τ ρ α
  | [] => ([], around)
  | occasion :: rest =>
      let (answers, around) := resolver.step listener around occasion
      let (more, around) := resolver.follow listener around rest
      (answers ++ more, around)

variable (resolver : Resolver σ τ ρ Asset Handle) (listener : α → Report Handle → α)

/-- The occasion is the activation of a scene that is not played. -/
def overlooks : Occasion → Bool
  | .recorded .. => false
  | .activated scene => resolver.ignores scene

/-- The answer to an activation: nothing for a scene that is listed or has no name, and for any
other one a report on all that is recorded for it. -/
inductive Answers (activation : Activation) : Option (Report Handle) → Prop where
  | ignored (h : activation.2 = "" ∨ resolver.Lists activation.2) : Answers activation none
  | played {report : Report Handle} {before after : Stage σ τ ρ}
      (h : ¬ (activation.2 = "" ∨ resolver.Lists activation.2))
      (hreport : resolver.resolve activation.1 activation.2 before = (report, after))
      (hscene : report.scene = sceneKey activation.2)
      (hsize : report.size = (activation.1.directives activation.2).length) :
      Answers activation (some report)

/-! ## One occasion -/

theorem activate_of_ignores {scene : String} (h : resolver.ignores scene = true)
    (store : SpawnStore) (stage : Stage σ τ ρ) (audience : α) :
    resolver.activate store listener scene stage audience = (none, stage, audience) := by
  rw [activate, if_pos h]

/-- An activation is answered, and a report is heard by the listener. -/
theorem activate_answers (store : SpawnStore) (scene : String) (stage : Stage σ τ ρ)
    (audience : α) :
    ∃ answer after, resolver.activate store listener scene stage audience =
        (answer, after, answer.elim audience (listener audience)) ∧
      resolver.Answers (store, scene) answer := by
  cases hplayed : resolver.ignores scene with
  | true =>
      rw [resolver.activate_of_ignores listener hplayed]
      exact ⟨none, stage, rfl, .ignored ((resolver.ignores_iff scene).mp hplayed)⟩
  | false =>
      have hunlisted : ¬ (scene = "" ∨ resolver.Lists scene) := by
        rw [← resolver.ignores_iff, hplayed]
        exact Bool.false_ne_true
      refine ⟨some (resolver.resolve store scene stage).1, (resolver.resolve store scene stage).2,
        ?_, .played hunlisted rfl (resolver.scene_resolve store scene stage)
          (resolver.size_resolve store scene stage)⟩
      simp only [activate, hplayed, Bool.false_eq_true, if_false]
      rfl

theorem step_of_overlooks {occasion : Occasion} (h : resolver.overlooks occasion = true)
    (around : Surroundings σ τ ρ α) :
    resolver.step listener around occasion = ([none], around) := by
  cases occasion with
  | recorded => cases h
  | activated scene => rw [step, resolver.activate_of_ignores listener h]

/-- Only activations that are overlooked have no report. -/
theorem step_of_not_overlooks {occasion : Occasion} (h : resolver.overlooks occasion = false)
    (around : Surroundings σ τ ρ α) :
    (resolver.step listener around occasion).1.reduceOption.map some =
      (resolver.step listener around occasion).1 := by
  cases occasion with
  | recorded => rfl
  | activated scene =>
      rw [step, activate, if_neg (by rw [show resolver.ignores scene = false from h]; decide)]
      rfl

/-- What is noted for an occasion does not depend on what has been noted before it. -/
theorem exists_notes_step (around : Surroundings σ τ ρ α) (occasion : Occasion) :
    ∃ more, ∀ notes, resolver.noting.step listener (around.withNotes notes) occasion =
      ((resolver.step listener around occasion).1,
        (resolver.step listener around occasion).2.withNotes (notes ++ more)) := by
  cases occasion with
  | recorded scene directive =>
      refine ⟨{}, fun notes => ?_⟩
      rw [Notes.append_nil]
      rfl
  | activated scene =>
      obtain ⟨round, after, heard, -, -, hone, hnoted⟩ := resolver.exists_round listener
        around.stage around.audience (around.store, scene)
      refine ⟨resolver.notesOf round, fun notes => ?_⟩
      simp only [step, Surroundings.withNotes, hone, hnoted]

/-! ## Histories -/

theorem exists_notes_follow (around : Surroundings σ τ ρ α) (occasions : List Occasion) :
    ∃ more, ∀ notes, resolver.noting.follow listener (around.withNotes notes) occasions =
      ((resolver.follow listener around occasions).1,
        (resolver.follow listener around occasions).2.withNotes (notes ++ more)) := by
  induction occasions generalizing around with
  | nil =>
      refine ⟨{}, fun notes => ?_⟩
      rw [Notes.append_nil]
      rfl
  | cons occasion rest ih =>
      obtain ⟨first, hstep⟩ := resolver.exists_notes_step listener around occasion
      obtain ⟨later, hrest⟩ := ih (resolver.step listener around occasion).2
      refine ⟨first ++ later, fun notes => ?_⟩
      simp only [follow, hstep, hrest, Notes.append_assoc]

/-- The occasions that are not overlooked have the same reports among themselves and leave the
same. -/
theorem follow_filter (around : Surroundings σ τ ρ α) (occasions : List Occasion) :
    resolver.follow listener around (occasions.filter fun occasion =>
        !resolver.overlooks occasion) =
      ((resolver.follow listener around occasions).1.reduceOption.map some,
        (resolver.follow listener around occasions).2) := by
  induction occasions generalizing around with
  | nil => rfl
  | cons occasion rest ih =>
      rw [List.filter_cons]
      cases hoverlooks : resolver.overlooks occasion with
      | true =>
          simp only [follow, resolver.step_of_overlooks listener hoverlooks]
          exact ih around
      | false =>
          have hreports := resolver.step_of_not_overlooks listener hoverlooks around
          simp only [follow, Bool.not_false, if_true, ih, List.reduceOption_append, List.map_append,
            hreports]

/-- Every activation is answered in its turn. -/
theorem forall₂_answers (around : Surroundings σ τ ρ α) (occasions : List Occasion) :
    List.Forall₂ resolver.Answers (Occasion.activations around.store occasions)
      (resolver.follow listener around occasions).1 := by
  induction occasions generalizing around with
  | nil => exact .nil
  | cons occasion rest ih =>
      cases occasion with
      | recorded scene directive =>
          exact ih { around with store := around.store.record scene directive }
      | activated scene =>
          obtain ⟨answer, after, hactivate, hanswer⟩ := resolver.activate_answers listener
            around.store scene around.stage around.audience
          simp only [follow, step, hactivate]
          exact .cons hanswer (ih ⟨around.store, after, _⟩)

/-- The listener hears the reports, each once and in order. -/
theorem audience_follow (around : Surroundings σ τ ρ α) (occasions : List Occasion) :
    (resolver.follow listener around occasions).2.audience =
      (resolver.follow listener around occasions).1.reduceOption.foldl listener
        around.audience := by
  induction occasions generalizing around with
  | nil => rfl
  | cons occasion rest ih =>
      rw [follow, List.reduceOption_append, List.foldl_append]
      cases occasion with
      | recorded scene directive => exact ih _
      | activated scene =>
          obtain ⟨answer, after, hactivate, -⟩ := resolver.activate_answers listener
            around.store scene around.stage around.audience
          simp only [step, hactivate]
          rw [ih]
          cases answer with
          | _ => rfl

/-- Ignored activations leave no trace, and every other one is published once. In any history of
recordings and activations the listener hears exactly the reports that were answered, in order; an
activation is answered by a report on what is recorded by then, be it nothing, unless the scene is
listed or has no name. The activation of such a scene has no report and leaves all as it is, the
notes of what was asked of host, scaler and random source included. And a history without these
activations has the same reports, puts the same calls to the collaborators and ends in the same
state. -/
theorem ignored_leave_no_trace (around : Surroundings σ τ ρ α) (occasions : List Occasion) :
    let history := resolver.follow listener around occasions
    let played := occasions.filter fun occasion => !resolver.overlooks occasion
    history.2.audience = history.1.reduceOption.foldl listener around.audience ∧
    List.Forall₂ resolver.Answers (Occasion.activations around.store occasions) history.1 ∧
    (∀ scene, scene = "" ∨ resolver.Lists scene → ∀ moment notes,
      resolver.noting.step listener (Surroundings.withNotes moment notes) (.activated scene) =
        ([none], moment.withNotes notes)) ∧
    resolver.follow listener around played = (history.1.reduceOption.map some, history.2) ∧
    ∃ notes,
      resolver.noting.follow listener (around.withNotes {}) occasions =
        (history.1, history.2.withNotes notes) ∧
      resolver.noting.follow listener (around.withNotes {}) played =
        (history.1.reduceOption.map some, history.2.withNotes notes) := by
  intro history played
  obtain ⟨notes, hnoted⟩ := resolver.exists_notes_follow listener around occasions
  have hplayed := resolver.noting.follow_filter listener (around.withNotes {}) occasions
  rw [hnoted, Notes.nil_append] at hplayed
  refine ⟨resolver.audience_follow listener around occasions,
    resolver.forall₂_answers listener around occasions, ?_,
    resolver.follow_filter listener around occasions, notes, hnoted {}, hplayed⟩
  intro scene hscene moment notes
  have hoverlooks : resolver.noting.overlooks (.activated scene) = true :=
    (resolver.noting.ignores_iff scene).mpr hscene
  exact resolver.noting.step_of_overlooks listener hoverlooks _

end Resolver

/-- A scaler that changes its mind: the first chance becomes zero, all others stay. -/
def tide : Scaler Nat where
  adjust calls chance _ := (if calls = 0 then .zero else chance, calls + 1)

def pierResolver : Resolver RehearsalHost Nat RehearsalRandom String Placement :=
  ⟨RehearsalHost.collaborator, tide, RehearsalRandom.collaborator, "GEAR_", ["MainMenu"]⟩

/-- Activations of a scene before and after something is recorded for it, with ignored ones in
between. -/
def pierOccasions : List Occasion :=
  [.activated "Pier", .activated "MainMenu", .recorded "PIER" { prefab := "rope" },
    .activated "pier", .activated "", .activated "mainmenu", .activated "PIER"]

def pierStart : Surroundings RehearsalHost Nat RehearsalRandom (List (Report Placement)) :=
  ⟨{}, ⟨{}, 0, {}⟩, []⟩

/-- Ignored activations do not count as calls of a scaler that counts them. -/
theorem Resolver.ignored_leave_no_trace_pier :
    let listener := fun (heard : List (Report Placement)) report => heard ++ [report]
    let history := pierResolver.follow listener pierStart pierOccasions
    let played : List Occasion :=
      [.activated "Pier", .recorded "PIER" { prefab := "rope" }, .activated "pier",
        .activated "PIER"]
    (history.1.map fun answer => answer.map fun report => report.placed.length) =
        [some 0, none, some 0, none, none, some 1] ∧
      history.2.audience = history.1.reduceOption ∧
      history.2.stage.scaler = 2 ∧
      pierResolver.follow listener pierStart played =
        (history.1.reduceOption.map some, history.2) ∧
      ∃ notes : Notes String Placement,
        notes.adjustments = [⟨.hundred, { prefab := "rope" }, .zero⟩,
          ⟨.hundred, { prefab := "rope" }, .hundred⟩] ∧
        pierResolver.noting.follow listener (pierStart.withNotes {}) pierOccasions =
          (history.1, history.2.withNotes notes) ∧
        pierResolver.noting.follow listener (pierStart.withNotes {}) played =
          (history.1.reduceOption.map some, history.2.withNotes notes) := by
  intro listener history played
  obtain ⟨haudience, -, -, hplayed, notes, hnoted, hplayedNoted⟩ :=
    pierResolver.ignored_leave_no_trace listener pierStart pierOccasions
  have hfilter : (pierOccasions.filter fun occasion => !pierResolver.overlooks occasion) =
      played := rfl
  rw [hfilter] at hplayed hplayedNoted
  refine ⟨by decide +kernel, haudience.trans ?_, by decide +kernel, hplayed, notes, ?_, hnoted,
    hplayedNoted⟩
  · rfl
  · have hadjustments := congrArg (·.2.stage.scaler.2) hnoted
    exact hadjustments.symm.trans (by decide +kernel)

end LootSpawn
