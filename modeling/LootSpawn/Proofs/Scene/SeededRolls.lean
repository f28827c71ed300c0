import LootSpawn.Proofs.Scene.SteadyHost
import LootSpawn.Scene.Rehearsal

/-!
# Seeded rolls are not disturbed

A seeded roller takes a word from its stream only for a chance that leaves the outcome open. A
directive whose asset is missing, or whose chance settles the outcome, leaves the stream as it is,
so with a steady host it can be added to a scene anywhere, or taken away, and nothing changes but
its own part of the report.
-/

namespace LootSpawn

open Number

variable {σ τ Asset Handle : Type}

/-- A chance that settles the outcome takes nothing from the stream. -/
theorem Keystream.roll_of_settled (stream : Keystream) {chance : Single}
    (h : chance.isNaN = true ∨ chance.le .zero = true ∨ Single.hundred.le chance = true) :
    (stream.roll chance).2 = stream := by
  rw [roll]
  split
  next => rfl
  next hopen =>
    rw [Bool.or_eq_true, not_or] at hopen
    rcases h with h | h | h
    · exact absurd h hopen.1
    · exact absurd h hopen.2
    · rw [if_pos h]

namespace Resolver

/-- A resolver whose rolls are seeded; the state of its random source is a position in the stream of
the seed. -/
def seeded (host : SceneHost σ Asset Handle) (scaler : Scaler τ) (itemPrefix : String)
    (nonGameScenes : List String) : Resolver σ τ Keystream Asset Handle :=
  ⟨host, scaler, ⟨Keystream.roll⟩, itemPrefix, nonGameScenes⟩

/-- Under this rule for chances the directive needs no draw: its asset is missing, or its chance
settles the outcome. -/
def NeedsNoDraw {ρ : Type} (resolver : Resolver σ τ ρ Asset Handle) (scale : Scaling)
    (asset? : String → Option Asset) (directive : Directive) : Prop :=
  let chance := scale directive.chance directive
  asset? (resolver.assetName directive) = none ∨
    chance.isNaN = true ∨ chance.le .zero = true ∨ Single.hundred.le chance = true

variable {host : SceneHost σ Asset Handle} {asset? : String → Option Asset}
  {handleOf : Asset → Vector3 → Vector3 → Handle} {scaler : Scaler τ} {scale : Scaling}
  {itemPrefix : String} {nonGameScenes : List String}

/-- A directive that needs no draw leaves the stream as it is. -/
theorem Fares.random_eq_of_needsNoDraw {stage after : Stage σ τ Keystream} {directive : Directive}
    {attempt : Attempt Asset Handle}
    (h : (seeded host scaler itemPrefix nonGameScenes).Fares stage directive attempt after)
    (hsteady : host.Steady asset? handleOf) (hscaler : scaler.Steady scale)
    (hneedless : (seeded host scaler itemPrefix nonGameScenes).NeedsNoDraw scale asset?
      directive) :
    after.random = stage.random := by
  let resolver := seeded host scaler itemPrefix nonGameScenes
  -- If the asset is found, the chance is one that settles the outcome.
  have hstream : ∀ {asset found chance adjusted success random},
      resolver.host.find stage.host (resolver.assetName directive) = (some asset, found) →
      resolver.scaler.adjust stage.scaler directive.chance directive = (chance, adjusted) →
      resolver.random.roll stage.random chance = (success, random) →
      random = stage.random := by
    intro asset found chance adjusted success random hfind hadjust hroll
    have hchance : chance = scale directive.chance directive := by
      rw [← hscaler stage.scaler]
      exact (congrArg Prod.fst hadjust).symm
    rcases hneedless with hmissing | hsettled
    · have hasset := hsteady.find stage.host (resolver.assetName directive)
      rw [show host.find stage.host (resolver.assetName directive) = _ from hfind] at hasset
      cases hasset.trans hmissing
    · rw [← hchance] at hsettled
      rw [← stage.random.roll_of_settled hsettled]
      exact (congrArg Prod.snd hroll).symm
  cases h with
  | missing => rfl
  | hopeless => rfl
  | lost hfind hadjust _ hroll => exact hstream hfind hadjust hroll
  | placed hfind hadjust _ hroll _ => exact hstream hfind hadjust hroll

/-- A directive that needs no draw may stand anywhere in a scene. With it and without it the stream
is left at the same position, the directives before and after it have the same fates, and all later
activations have the same reports, which a listener hears in the same way. -/
theorem needless_directive (hsteady : host.Steady asset? handleOf)
    (hscaler : scaler.Steady scale) (itemPrefix : String) (nonGameScenes : List String)
    {before after : List Directive} {directive : Directive}
    (hneedless : (seeded host scaler itemPrefix nonGameScenes).NeedsNoDraw scale asset? directive)
    {store store' : SpawnStore} {scene : String}
    (hwith : store.directives scene = before ++ [directive] ++ after)
    (hwithout : store'.directives scene = before ++ after)
    {stage stage' : Stage σ τ Keystream} (hrandom : stage.random = stage'.random) :
    let resolver := seeded host scaler itemPrefix nonGameScenes
    let long := resolver.resolve store scene stage
    let short := resolver.resolve store' scene stage'
    long.2.random = short.2.random ∧
      (∃ (fatesBefore fatesAfter : List (Directive × Fate Handle)) (fate : Fate Handle),
        fatesBefore.map Prod.fst = before ∧ fatesAfter.map Prod.fst = after ∧
        (resolver.fates stage (store.directives scene)).1 =
          fatesBefore ++ [(directive, fate)] ++ fatesAfter ∧
        (resolver.fates stage' (store'.directives scene)).1 = fatesBefore ++ fatesAfter ∧
        long.1 = .ofFates (sceneKey scene) (fatesBefore ++ [(directive, fate)] ++ fatesAfter) ∧
        short.1 = .ofFates (sceneKey scene) (fatesBefore ++ fatesAfter)) ∧
      ∀ {α : Type} (listener : α → Report Handle → α) (audience : α)
        (later later' : List Activation), List.Forall₂ Activation.Same later later' →
        let run := resolver.activateAll listener long.2 audience later
        let other := resolver.activateAll listener short.2 audience later'
        run.1 = other.1 ∧ run.2.1.random = other.2.1.random ∧ run.2.2 = other.2.2 := by
  intro resolver long short
  obtain ⟨attempts, middle, hbefore, hfirst⟩ := resolver.exists_faresAll stage before
  obtain ⟨attempt, next, hown⟩ := resolver.exists_fares middle directive
  obtain ⟨rest, last, hafter, hrest⟩ := resolver.exists_faresAll next after
  -- Without the directive all others fare as they do with it.
  obtain ⟨middle', hfirst', hmiddle⟩ := hfirst.congr hsteady hscaler hrandom
  have hnext : next.random = middle'.random :=
    (hown.random_eq_of_needsNoDraw hsteady hscaler hneedless).trans hmiddle
  obtain ⟨last', hrest', hlast⟩ := hrest.congr hsteady hscaler hnext
  have hlong := hfirst.append (.cons hown hrest)
  have hshort := hfirst'.append hrest'
  have hfst : (attempts ++ (directive, attempt) :: rest).map Prod.fst =
      store.directives scene := by
    rw [hwith, List.map_append, List.map_cons, hbefore, hafter, List.append_assoc]
    rfl
  have hfst' : (attempts ++ rest).map Prod.fst = store'.directives scene := by
    rw [hwithout, List.map_append, hbefore, hafter]
  have hlongEq : long = _ := hlong.resolve_eq (by rw [hfst, SpawnStore.directives_sceneKey])
  have hshortEq : short = _ := hshort.resolve_eq (by rw [hfst', SpawnStore.directives_sceneKey])
  have hstream : long.2.random = short.2.random := by
    rw [hlongEq, hshortEq]
    exact hlast
  refine ⟨hstream, ⟨attempts.map fun entry => (entry.1, resolver.fate entry),
    rest.map fun entry => (entry.1, resolver.fate entry), resolver.fate (directive, attempt),
    ?_, ?_, ?_, ?_, ?_, ?_⟩, ?_⟩
  · rw [List.map_map]
    exact hbefore
  · rw [List.map_map]
    exact hafter
  · rw [← hfst, hlong.fates_eq, List.map_append, List.map_cons, List.append_assoc]
    rfl
  · rw [← hfst', hshort.fates_eq, List.map_append]
  · rw [hlongEq, List.append_assoc]
    simp only [reportOf, List.map_append, List.map_cons, List.cons_append, List.nil_append]
  · rw [hshortEq, reportOf, List.map_append]
  · intro α listener audience later later' hsame
    exact activateAll_congr hsteady hscaler hstream hsame listener audience

end Resolver

/-- A host without ghosts, which remembers what it was asked for. -/
def attic : SceneHost (List String) String Placement where
  find asked name := (if name = "GEAR_ghost" then none else some name, asked ++ [name])
  place asked asset position rotation := (⟨asset, position, rotation⟩, asked)

theorem steady_attic :
    attic.Steady (fun name => if name = "GEAR_ghost" then none else some name) Placement.mk :=
  ⟨fun _ _ => rfl, fun _ _ _ _ => rfl⟩

def rope : Directive := { prefab := "rope", chance := .ofNat 50 }

def lamp : Directive := { prefab := "lamp", chance := .ofNat 40 }

def ghost : Directive := { prefab := "ghost", chance := .ofNat 50 }

def atticStore (directives : List Directive) : SpawnStore :=
  ({} : SpawnStore).recordAll (directives.map fun directive => ("Attic", directive))

theorem Resolver.needless_directive_ghost :
    let resolver := seeded attic (.ofScaling fun chance _ => chance) "GEAR_" []
    let stage : Stage (List String) Unit Keystream := ⟨[], (), Keystream.ofSeed 42⟩
    let stage' : Stage (List String) Unit Keystream := ⟨["GEAR_key"], (), Keystream.ofSeed 42⟩
    let long := resolver.resolve (atticStore [rope, ghost, lamp]) "attic" stage
    let short := resolver.resolve (atticStore [rope, lamp]) "attic" stage'
    long.2.random = short.2.random ∧ short.2.random ≠ Keystream.ofSeed 42 ∧
      (∃ first last fate,
        (resolver.fates stage ((atticStore [rope, ghost, lamp]).directives "attic")).1 =
          first ++ [(ghost, fate)] ++ last ∧
        (resolver.fates stage' ((atticStore [rope, lamp]).directives "attic")).1 =
          first ++ last) ∧
      (resolver.activateAll (fun heard _ => heard + 1) long.2 0 [(atticStore [lamp], "Attic")]).1 =
        (resolver.activateAll (fun heard _ => heard + 1) short.2 0
          [(atticStore [lamp], "Attic")]).1 := by
  dsimp only
  have hneedless : (seeded attic (.ofScaling fun chance _ => chance) "GEAR_" []).NeedsNoDraw
      (fun chance _ => chance) (fun name => if name = "GEAR_ghost" then none else some name)
      ghost :=
    Or.inl (by decide +kernel)
  have hwith : (atticStore [rope, ghost, lamp]).directives "attic" =
      [rope] ++ [ghost] ++ [lamp] := by
    decide +kernel
  have hwithout : (atticStore [rope, lamp]).directives "attic" = [rope] ++ [lamp] := by
    decide +kernel
  obtain ⟨hstream, ⟨first, last, fate, -, -, hlong, hshort, -, -⟩, hlater⟩ :=
    needless_directive steady_attic (Scaler.steady_ofScaling _) "GEAR_" [] hneedless hwith hwithout
      (show (⟨[], (), Keystream.ofSeed 42⟩ : Stage (List String) Unit Keystream).random =
        (⟨["GEAR_key"], (), Keystream.ofSeed 42⟩ : Stage (List String) Unit Keystream).random
        from rfl)
  exact ⟨hstream, by decide +kernel, ⟨first, last, fate, hlong, hshort⟩,
    (hlater _ 0 _ _ (List.Forall₂.cons ⟨rfl, rfl⟩ List.Forall₂.nil)).1⟩

end LootSpawn
