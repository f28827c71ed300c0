import LootSpawn.Proofs.Lint.Duplicates
import LootSpawn.Proofs.Scene.Rounds

/-!
# Spawns that never happen

The linter warns of a spawn that can never happen exactly where the chance of the spawn is zero, of
either sign. The warning is right under every configuration: whatever the multipliers, the host and
the random source, no activation of any scene places such a spawn.
-/

namespace LootSpawn

open Number

def Finding.isNeverSpawns : Finding → Bool
  | .neverSpawns _ => true
  | _ => false

def Issue.isNeverSpawns (issue : Issue) : Bool := issue.finding.isNeverSpawns

/-- The spawns with a chance of zero, each with its scene. -/
def Source.zeroSpawns (source : Source) : List (Numbered (String × Directive)) :=
  source.spawns.filter fun spawn => spawn.value.2.chance.isZero

namespace Linter

/-! ## Warnings -/

/-- The warning that a spawn never happens. -/
def neverWarning (origin : String) (spawn : Numbered (String × Directive)) : Issue :=
  ⟨origin, spawn.line, .neverSpawns spawn.value.2.prefab⟩

theorem filter_spawnIssues (origin : String) (source : Source) :
    (spawnIssues origin source).filter Issue.isNeverSpawns =
      source.zeroSpawns.map (neverWarning origin) := by
  rw [spawnIssues, Source.zeroSpawns, List.filter_filterMap, ← List.filterMap_eq_map,
    List.filterMap_filter]
  apply List.filterMap_congr
  intro spawn _
  simp only [chanceFinding?]
  split
  next => rfl
  next =>
    split
    next => rfl
    next => rfl

theorem filter_emptyIssues (origin : String) (records : List (Numbered Record)) :
    (emptyIssues origin records).filter Issue.isNeverSpawns = [] := by
  rw [List.filter_eq_nil_iff]
  exact forall_mem_emptyIssues (P := (¬ ·.isNeverSpawns = true)) (fun _ => nofun) fun _ => nofun

theorem filter_foldl_checkLoot (origin : String) (linter : Linter)
    (loots : List (Numbered (String × LootEntry))) :
    (loots.foldl (checkLoot origin) linter).issues.filter Issue.isNeverSpawns =
      linter.issues.filter Issue.isNeverSpawns := by
  obtain ⟨issues, hissues, hloot⟩ := exists_issues_foldl_checkLoot origin linter loots
  have hnone : issues.filter Issue.isNeverSpawns = [] := by
    rw [List.filter_eq_nil_iff]
    intro issue hissue
    exact Finding.of_isAboutLoot (P := (¬ ·.isNeverSpawns = true)) (fun _ => nofun)
      (fun _ _ _ _ => nofun) (hloot issue hissue)
  rw [hissues, List.filter_append, hnone, List.append_nil]

theorem filter_check (linter : Linter) (origin : String) (source : Source) :
    (linter.check origin source).issues.filter Issue.isNeverSpawns =
      linter.issues.filter Issue.isNeverSpawns ++ source.zeroSpawns.map (neverWarning origin) := by
  rw [check, List.filter_append, filter_emptyIssues, List.append_nil, filter_foldl_checkLoot,
    List.filter_append, filter_spawnIssues]

theorem filter_checkAll (linter : Linter) (files : List (NamedText × Source)) :
    (linter.checkAll files).issues.filter Issue.isNeverSpawns =
      linter.issues.filter Issue.isNeverSpawns ++
        files.flatMap fun file => file.2.zeroSpawns.map (neverWarning file.1.origin) := by
  induction files generalizing linter with
  | nil => simp [checkAll]
  | cons file rest ih =>
      rw [List.flatMap_cons, ← List.append_assoc, ← filter_check]
      exact ih (linter.check file.1.origin file.2)

end Linter

/-! ## Spawns -/

namespace Session

/-- A session that loaded files has their spawns in the scenes that they are declared for. -/
theorem mem_directives_loadAll {files : List (NamedText × Source)}
    (hread : ∀ file ∈ files, Source.ofText file.1.content = .ok file.2) (session : Session)
    {file : NamedText × Source} (hfile : file ∈ files) {spawn : Numbered (String × Directive)}
    (hspawn : spawn ∈ file.2.spawns) :
    spawn.value.2 ∈ (session.loadAll files).spawns.directives spawn.value.1 := by
  rw [loadAll_eq_foldl_commit hread, spawns_foldl_commit, SpawnStore.directives_recordAll]
  apply List.mem_append_right
  refine List.mem_map_of_mem (List.mem_filter.mpr ⟨?_, by simp⟩)
  exact List.mem_flatMap.mpr ⟨file.2, List.mem_map_of_mem hfile, List.mem_map_of_mem hspawn⟩

end Session

namespace Resolver

variable {σ τ ρ Asset Handle : Type}

/-- The host is asked for the asset of the directive and not to place it. If it has the asset, the
attempt counts as a failed roll. -/
def NeverPlaces (resolver : Resolver σ τ ρ Asset Handle) (directive : Directive)
    (attempt : Attempt Asset Handle) : Prop :=
  ∃ answer, resolver.hostCalls (directive, attempt) =
      [.find (resolver.assetName directive) answer] ∧
    (answer.isSome = true → attempt.isFailed = true)

theorem neverPlaces_of_isHopeless {resolver : Resolver σ τ ρ Asset Handle} {scale : Scaling}
    {directive : Directive} {attempt : Attempt Asset Handle} (hrolls : attempt.RollsRightly)
    (hfollows : Attempt.Follows scale (directive, attempt))
    (hhopeless : isHopeless (scale directive.chance directive) = true) :
    resolver.NeverPlaces directive attempt := by
  rcases hrolls.of_isHopeless hfollows hhopeless with rfl | ⟨asset, chance, rfl⟩
  · exact ⟨none, rfl, nofun⟩
  · exact ⟨some asset, rfl, fun _ => rfl⟩

end Resolver

/-- A warning that a spawn can never happen is right. The warnings are those of the spawns with a
chance of zero in the files, in order. A session that loaded the files has each of these spawns in
its scene. Under its multipliers any sequence of activations goes through rounds of attempts in
which no such spawn is placed, and it is among the failed rolls that are reported whenever its asset
is found. -/
theorem Linter.never_spawns (itemPrefix : String) (files : List (NamedText × Source))
    (hread : ∀ file ∈ files, Source.ofText file.1.content = .ok file.2) :
    ((({ itemPrefix } : Linter).checkAll files).issues.filter Issue.isNeverSpawns =
      files.flatMap fun file => file.2.zeroSpawns.map (neverWarning file.1.origin)) ∧
    ∀ (session : Session), ∀ file ∈ files, ∀ spawn ∈ file.2.zeroSpawns,
      spawn.value.2 ∈ (session.loadAll files).spawns.directives spawn.value.1 ∧
      ∀ {σ ρ Asset Handle α : Type} (host : SceneHost σ Asset Handle) (random : RandomSource ρ)
        (listener : α → Report Handle → α) (stage : Stage σ Unit ρ) (audience : α)
        (activations : List Activation),
        let resolver := (session.loadAll files).defaultResolver host random
        ∃ rounds, resolver.GoesThrough listener stage audience activations rounds ∧
          ∀ round ∈ rounds,
            (∀ scene, (resolver.reportOf scene round).failedRolls =
              round.countP fun entry => entry.2.isFailed) ∧
            ∀ attempt, (spawn.value.2, attempt) ∈ round →
              resolver.NeverPlaces spawn.value.2 attempt := by
  refine ⟨filter_checkAll _ files, ?_⟩
  intro session file hfile spawn hspawn
  obtain ⟨hmem, hzero⟩ := List.mem_filter.mp hspawn
  refine ⟨session.mem_directives_loadAll hread hfile hmem, ?_⟩
  intro σ ρ Asset Handle α host random listener stage audience activations resolver
  obtain ⟨rounds, hrounds⟩ := resolver.exists_rounds listener stage audience activations
  refine ⟨rounds, hrounds, ?_⟩
  intro round hround
  refine ⟨fun scene => resolver.failedRolls_reportOf scene round, ?_⟩
  intro attempt hattempt
  have hfollows := hrounds.follows (Scaler.steady_ofScaling _) round hround _ hattempt
  exact Resolver.neverPlaces_of_isHopeless (hrounds.rolls round hround _ hattempt) hfollows
    (ChanceScaler.isHopeless_adjust _ hzero)

/-- A spawn whose chance is written as the negative of zero. -/
def denFlare : Directive := { prefab := "flare", chance := .ofUnits true 0, tag := "deep" }

/-- A file with two chances of zero and a certain spawn. -/
def denFiles : List (NamedText × Source) :=
  [(⟨"den.txt", "scene = Den\nitem = rope c = 0\nitem = tea\ntag = deep\nitem = flare c = -0.0"⟩,
    ⟨[⟨1, .scene "den"⟩, ⟨2, .spawn "den" { prefab := "rope", chance := .zero }⟩,
      ⟨3, .spawn "den" { prefab := "tea" }⟩, ⟨4, .tag "deep"⟩, ⟨5, .spawn "den" denFlare⟩]⟩)]

/-- Infinite multipliers, the one for the tag negative. -/
def denConfig : Config where
  chanceMultiplier := .infinite false
  tagMultipliers := .ofList [("Deep", Single.infinite true)]

def denSession : Session := (Session.start denConfig).loadAll denFiles

def denResolver : Resolver RehearsalHost Unit RehearsalRandom String Placement :=
  denSession.defaultResolver RehearsalHost.collaborator RehearsalRandom.collaborator

theorem Linter.never_spawns_den :
    (({ itemPrefix := "GEAR_" } : Linter).checkAll denFiles).issues.filter Issue.isNeverSpawns =
      [⟨"den.txt", 2, .neverSpawns "rope"⟩, ⟨"den.txt", 5, .neverSpawns "flare"⟩] ∧
    denFlare ∈ denSession.spawns.directives "Den" ∧
    ∃ rounds, denResolver.GoesThrough (fun heard _ => heard + 1) ⟨{}, (), {}⟩ 0
        [(denSession.spawns, "Den")] rounds ∧
      ∀ round ∈ rounds, ∀ attempt, (denFlare, attempt) ∈ round →
        denResolver.NeverPlaces denFlare attempt := by
  have hread : ∀ file ∈ denFiles, Source.ofText file.1.content = .ok file.2 := by
    decide +kernel
  obtain ⟨hissues, hnever⟩ := Linter.never_spawns "GEAR_" denFiles hread
  obtain ⟨hmem, hrun⟩ := hnever (Session.start denConfig) _ (List.mem_singleton_self _)
    ⟨5, "den", denFlare⟩ (by decide +kernel)
  obtain ⟨rounds, hrounds, hall⟩ := hrun RehearsalHost.collaborator RehearsalRandom.collaborator
    (fun heard _ => heard + 1) ⟨{}, (), {}⟩ 0 [(denSession.spawns, "Den")]
  refine ⟨hissues.trans (by decide +kernel), ?_, rounds, hrounds,
    fun round hround => (hall round hround).2⟩
  rw [← SpawnStore.directives_sceneKey]
  exact hmem

end LootSpawn
