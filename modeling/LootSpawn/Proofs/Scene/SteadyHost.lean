import LootSpawn.Proofs.Scene.Outcomes
import LootSpawn.Proofs.Store.SpawnContents
import Mathlib.Data.List.Forall2

/-!
# Hosts without moods

A host is steady if its answers do not depend on its state. With a steady host, and a scaler that
follows a rule, the reports of a resolution depend on the state of the random source alone, and so
does the state in which it leaves the random source. Two histories that agree on that state
therefore agree on all that follows, whatever the host went through in either of them.
-/

namespace LootSpawn

open Number

variable {σ τ ρ Asset Handle : Type}

/-- The host looks up assets by name alone, and its handles depend on nothing but the asset and its
place. -/
structure SceneHost.Steady (host : SceneHost σ Asset Handle) (asset? : String → Option Asset)
    (handleOf : Asset → Vector3 → Vector3 → Handle) : Prop where
  find : ∀ state name, (host.find state name).1 = asset? name
  place : ∀ state asset position rotation,
    (host.place state asset position rotation).1 = handleOf asset position rotation

/-- An activation: the spawns that are recorded by then, and the name of the scene. -/
abbrev Activation := SpawnStore × String

/-- The scene is the same and has the same directives in both stores. -/
def Activation.Same (first second : Activation) : Prop :=
  first.2 = second.2 ∧ first.1.directives first.2 = second.1.directives second.2

namespace Resolver

/-- Activates scenes one after the other, with a listener that hears of all of them. -/
def activateAll {α : Type} (resolver : Resolver σ τ ρ Asset Handle)
    (listener : α → Report Handle → α) (stage : Stage σ τ ρ) (audience : α) :
    List Activation → List (Option (Report Handle)) × Stage σ τ ρ × α
  | [] => ([], stage, audience)
  | (store, scene) :: rest =>
      let (report, stage, audience) := resolver.activate store listener scene stage audience
      let (reports, stage, audience) := resolver.activateAll listener stage audience rest
      (report :: reports, stage, audience)

variable {resolver : Resolver σ τ ρ Asset Handle} {asset? : String → Option Asset}
  {handleOf : Asset → Vector3 → Vector3 → Handle} {scale : Scaling}
  {stage stage' after : Stage σ τ ρ}

/-- From the same state of the random source on, a directive fares in the same way. -/
theorem Fares.congr {directive : Directive} {attempt : Attempt Asset Handle}
    (h : resolver.Fares stage directive attempt after)
    (hsteady : resolver.host.Steady asset? handleOf) (hscaler : resolver.scaler.Steady scale)
    (hrandom : stage.random = stage'.random) :
    ∃ after', resolver.Fares stage' directive attempt after' ∧ after.random = after'.random := by
  -- What host and scaler answer in one state they answer in the other one.
  have hfound : ∀ {answer host},
      resolver.host.find stage.host (resolver.assetName directive) = (answer, host) →
      ∃ host', resolver.host.find stage'.host (resolver.assetName directive) =
        (answer, host') := by
    intro answer host hfind
    refine ⟨_, Prod.ext ?_ rfl⟩
    rw [hsteady.find, ← hsteady.find stage.host, hfind]
  have hadjusted : ∀ {chance scaler},
      resolver.scaler.adjust stage.scaler directive.chance directive = (chance, scaler) →
      ∃ scaler', resolver.scaler.adjust stage'.scaler directive.chance directive =
        (chance, scaler') := by
    intro chance scaler hadjust
    refine ⟨_, Prod.ext ?_ rfl⟩
    rw [hscaler, ← hscaler stage.scaler, hadjust]
  cases h with
  | missing hfind =>
      obtain ⟨host', hfind'⟩ := hfound hfind
      exact ⟨_, .missing hfind', hrandom⟩
  | hopeless hfind hadjust hhopeless =>
      obtain ⟨host', hfind'⟩ := hfound hfind
      obtain ⟨scaler', hadjust'⟩ := hadjusted hadjust
      exact ⟨_, .hopeless hfind' hadjust' hhopeless, hrandom⟩
  | lost hfind hadjust hhopeless hroll =>
      obtain ⟨host', hfind'⟩ := hfound hfind
      obtain ⟨scaler', hadjust'⟩ := hadjusted hadjust
      rw [hrandom] at hroll
      exact ⟨_, .lost hfind' hadjust' hhopeless hroll, rfl⟩
  | @placed asset host _ _ _ _ handle hfind hadjust hhopeless hroll hplace =>
      obtain ⟨host', hfind'⟩ := hfound hfind
      obtain ⟨scaler', hadjust'⟩ := hadjusted hadjust
      rw [hrandom] at hroll
      have hhandle : handle = handleOf asset directive.position directive.rotation := by
        rw [← hsteady.place host, hplace]
      have hplace' : resolver.host.place host' asset directive.position directive.rotation =
          (handle, (resolver.host.place host' asset directive.position directive.rotation).2) :=
        Prod.ext ((hsteady.place host' asset _ _).trans hhandle.symm) rfl
      exact ⟨_, .placed hfind' hadjust' hhopeless hroll hplace', rfl⟩

theorem FaresAll.congr {attempts : List (Directive × Attempt Asset Handle)}
    (h : resolver.FaresAll stage attempts after)
    (hsteady : resolver.host.Steady asset? handleOf) (hscaler : resolver.scaler.Steady scale)
    (hrandom : stage.random = stage'.random) :
    ∃ after', resolver.FaresAll stage' attempts after' ∧ after.random = after'.random := by
  induction h generalizing stage' with
  | nil => exact ⟨stage', .nil stage', hrandom⟩
  | cons hone _ ih =>
      obtain ⟨middle', hone', hmiddle⟩ := hone.congr hsteady hscaler hrandom
      obtain ⟨after', hrest', hafter⟩ := ih hmiddle
      exact ⟨after', .cons hone' hrest', hafter⟩

theorem resolve_congr (hsteady : resolver.host.Steady asset? handleOf)
    (hscaler : resolver.scaler.Steady scale) (hrandom : stage.random = stage'.random)
    {store store' : SpawnStore} {scene : String}
    (hsame : store.directives scene = store'.directives scene) :
    (resolver.resolve store scene stage).1 = (resolver.resolve store' scene stage').1 ∧
      (resolver.resolve store scene stage).2.random =
        (resolver.resolve store' scene stage').2.random := by
  obtain ⟨attempts, after, hfst, hall⟩ :=
    resolver.exists_faresAll stage (store.directives (sceneKey scene))
  obtain ⟨after', hall', hafter⟩ := hall.congr hsteady hscaler hrandom
  have hfst' : attempts.map Prod.fst = store'.directives (sceneKey scene) := by
    rw [hfst, SpawnStore.directives_sceneKey, SpawnStore.directives_sceneKey, hsame]
  rw [hall.resolve_eq hfst, hall'.resolve_eq hfst']
  exact ⟨rfl, hafter⟩

/-- From the same state of the random source on, the same activations have the same reports, which a
listener hears in the same way. -/
theorem activateAll_congr {α : Type} (hsteady : resolver.host.Steady asset? handleOf)
    (hscaler : resolver.scaler.Steady scale) (hrandom : stage.random = stage'.random)
    {first second : List Activation} (hsame : List.Forall₂ Activation.Same first second)
    (listener : α → Report Handle → α) (audience : α) :
    let run := resolver.activateAll listener stage audience first
    let other := resolver.activateAll listener stage' audience second
    run.1 = other.1 ∧ run.2.1.random = other.2.1.random ∧ run.2.2 = other.2.2 := by
  induction hsame generalizing stage stage' audience with
  | nil => exact ⟨rfl, hrandom, rfl⟩
  | @cons activation other rest rest' hactivation hrest ih =>
      obtain ⟨store, scene⟩ := activation
      obtain ⟨store', scene'⟩ := other
      obtain ⟨rfl, hdirectives⟩ := hactivation
      simp only [activateAll, activate]
      cases resolver.ignores scene with
      | true =>
          obtain ⟨hreports, hafter, hheard⟩ := ih hrandom audience
          exact ⟨congrArg (none :: ·) hreports, hafter, hheard⟩
      | false =>
          obtain ⟨hreport, hmiddle⟩ := resolve_congr hsteady hscaler hrandom hdirectives
          obtain ⟨hreports, hafter, hheard⟩ :=
            ih hmiddle (listener audience (resolver.resolve store scene stage).1)
          simp only [← hreport]
          exact ⟨congrArg (_ :: ·) hreports, hafter, hheard⟩

end Resolver

end LootSpawn
