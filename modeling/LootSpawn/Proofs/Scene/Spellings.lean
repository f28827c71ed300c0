import LootSpawn.Proofs.Text.AsciiSpelling
import LootSpawn.Scene.Rehearsal

/-!
# Spellings of a scene

A scene has one key, whatever the case of its name, and is resolved by it. The list of scenes that
are not played is gone through by another rule, equality up to ASCII case. Two spellings with one
key can therefore only be told apart by the list: one of them is on it and the other one is not.
That takes a letter beyond ASCII in one of them, or a k in a listed name.
-/

namespace LootSpawn

open Text

namespace Resolver

variable {σ τ ρ Asset Handle α : Type} (resolver : Resolver σ τ ρ Asset Handle)

/-- The name is a listed one, up to ASCII case. -/
def Lists (name : String) : Prop :=
  ∃ listed ∈ resolver.nonGameScenes, sameAsciiCase listed.toList name.toList = true

theorem ignores_iff (name : String) :
    resolver.ignores name = true ↔ name = "" ∨ resolver.Lists name := by
  rw [ignores, isNonGameScene, Bool.or_eq_true, List.any_eq_true, String.isEmpty_iff, Lists]

theorem resolve_eq_of_sceneKey_eq {first second : String} (hkey : sceneKey first = sceneKey second)
    (store : SpawnStore) (stage : Stage σ τ ρ) :
    resolver.resolve store first stage = resolver.resolve store second stage := by
  rw [resolve, resolve, hkey]

/-- An activation is ignored exactly if it has no report. -/
theorem activate_fst_eq_none_iff (store : SpawnStore) (listener : α → Report Handle → α)
    (name : String) (stage : Stage σ τ ρ) (audience : α) :
    (resolver.activate store listener name stage audience).1 = none ↔
      resolver.ignores name = true := by
  rw [activate]
  split
  next hignored => exact iff_of_true rfl hignored
  next hplayed => exact iff_of_false (Option.some_ne_none _) hplayed

/-- Spellings of a scene are treated alike if both of them are ignored or none is. -/
theorem activate_eq_activate_iff {first second : String} (hkey : sceneKey first = sceneKey second)
    (store : SpawnStore) (listener : α → Report Handle → α) (stage : Stage σ τ ρ) (audience : α) :
    resolver.activate store listener first stage audience =
        resolver.activate store listener second stage audience ↔
      (resolver.ignores first = true ↔ resolver.ignores second = true) := by
  constructor
  · intro h
    rw [← resolver.activate_fst_eq_none_iff store listener first stage audience, h]
    exact resolver.activate_fst_eq_none_iff store listener second stage audience
  · intro h
    rw [activate, activate, Bool.eq_iff_iff.mpr h, resolver.resolve_eq_of_sceneKey_eq hkey]

/-- Up to ASCII case the list does not tell spellings apart. -/
theorem lists_congr {first second : String}
    (h : sameAsciiCase first.toList second.toList = true) :
    resolver.Lists first ↔ resolver.Lists second := by
  rw [sameAsciiCase_iff] at h
  simp only [Lists, sameAsciiCase_iff, h]

/-- A list of plain names does not tell spellings apart. -/
theorem lists_congr_of_plain
    (hplain : ∀ listed ∈ resolver.nonGameScenes, ∀ c ∈ listed.toList, IsPlain c)
    {first second : String} (hkey : sceneKey first = sceneKey second) :
    resolver.Lists first ↔ resolver.Lists second := by
  have hlower : lower first.toList = lower second.toList := String.ofList_injective hkey
  refine exists_congr fun listed => and_congr_right fun hlisted => ?_
  rw [sameAsciiCase_iff_lower_eq (hplain listed hlisted),
    sameAsciiCase_iff_lower_eq (hplain listed hlisted), hlower]

/-- Two spellings of a scene have the same report and leave collaborators and listener in the same
state, unless one of them is listed and the other one is not. Collaborators may keep account of
their calls in their states, so they get the same calls as well. The list tells no two spellings
apart that are equal up to ASCII case, and a list of plain names tells none apart. -/
theorem spellings_alike_iff {first second : String} (hfirst : first ≠ "") (hsecond : second ≠ "")
    (hkey : sceneKey first = sceneKey second) (store : SpawnStore)
    (listener : α → Report Handle → α) (stage : Stage σ τ ρ) (audience : α) :
    (resolver.activate store listener first stage audience =
        resolver.activate store listener second stage audience ↔
      (resolver.Lists first ↔ resolver.Lists second)) ∧
    (sameAsciiCase first.toList second.toList = true ∨
        (∀ listed ∈ resolver.nonGameScenes, ∀ c ∈ listed.toList, IsPlain c) →
      (resolver.Lists first ↔ resolver.Lists second)) := by
  constructor
  · rw [resolver.activate_eq_activate_iff hkey, ignores_iff, ignores_iff, or_iff_right hfirst,
      or_iff_right hsecond]
  · rintro (hsame | hplain)
    · exact resolver.lists_congr hsame
    · exact resolver.lists_congr_of_plain hplain hkey

end Resolver

/-- A scene with one directive. -/
def lakeStore : SpawnStore :=
  ({} : SpawnStore).record "Lake" { prefab := "rope" }

/-- The Kelvin sign is another letter than k and has the same lower case. The scenes that are not
played unless configured otherwise do not tell the two apart. -/
theorem Resolver.spellings_alike_iff_lake :
    let resolver := rehearsal {} .unchanged
    let listener := fun (heard : List (Report Placement)) report => heard ++ [report]
    resolver.activate lakeStore listener "Lake" ⟨{}, (), {}⟩ [] =
        resolver.activate lakeStore listener "La\u212Ae" ⟨{}, (), {}⟩ [] ∧
      (resolver.activate lakeStore listener "La\u212Ae" ⟨{}, (), {}⟩ []).1.map Report.placed =
        some [⟨"GEAR_rope", .zero, .zero⟩] := by
  dsimp only
  have hkey : sceneKey "Lake" = sceneKey "La\u212Ae" := by decide +kernel
  have hplain : ((rehearsal {} .unchanged).nonGameScenes.all fun listed =>
      listed.toList.all fun c => decide (IsPlain c)) = true := by
    decide +kernel
  simp only [List.all_eq_true, decide_eq_true_eq] at hplain
  obtain ⟨halike, hlists⟩ := (rehearsal {} .unchanged).spellings_alike_iff
    (by decide) (by decide) hkey lakeStore (fun heard report => heard ++ [report]) ⟨{}, (), {}⟩ []
  exact ⟨halike.mpr (hlists (Or.inr hplain)), by decide +kernel⟩

/-- A listed name beyond ASCII covers one spelling of the scene and not the other one. -/
theorem Resolver.spellings_apart_school :
    let resolver := rehearsal { nonGameScenes := ["École"] } .unchanged
    let listener := fun (heard : Nat) (_ : Report Placement) => heard + 1
    sceneKey "École" = sceneKey "école" ∧
      (resolver.activate {} listener "École" ⟨{}, (), {}⟩ 0).1 = none ∧
      (resolver.activate {} listener "École" ⟨{}, (), {}⟩ 0).2.2 = 0 ∧
      (resolver.activate {} listener "école" ⟨{}, (), {}⟩ 0).1 = some { scene := "école" } ∧
      (resolver.activate {} listener "école" ⟨{}, (), {}⟩ 0).2.2 = 1 := by
  decide +kernel

end LootSpawn
