import LootSpawn.Name
import LootSpawn.Store.Spawns

/-!
# Resolving a scene

When a scene is activated, each of its directives is taken in order. The host is asked for the
asset; if it has one, the scaler adjusts the chance, which is rolled against, and a successful roll
places the asset. Host, scaler and random source may have states of their own. What becomes of a
directive is added to a report: the handles that were placed, the names that were missing, and the
number of failed rolls.
-/

namespace LootSpawn

open Number

/-- The side of the game: it looks up assets by name and places them in the scene. -/
structure SceneHost (σ Asset Handle : Type) where
  find : σ → String → Option Asset × σ
  place : σ → Asset → Vector3 → Vector3 → Handle × σ

/-- Decides rolls against a chance. -/
structure RandomSource (ρ : Type) where
  roll : ρ → Single → Bool × ρ

/-- A rule for chances: the adjusted chance for the declared chance of a directive. -/
abbrev Scaling := Single → Directive → Single

/-- Adjusts the declared chance of a directive. -/
structure Scaler (τ : Type) where
  adjust : τ → Single → Directive → Single × τ

/-- A scaler that follows a rule and has no state. -/
def Scaler.ofScaling (scale : Scaling) : Scaler Unit where
  adjust _ chance directive := (scale chance directive, ())

/-- What became of a directive. -/
inductive Fate (Handle : Type) where
  | missing (name : String)
  | failed
  | placed (handle : Handle)
  deriving DecidableEq

/-- What happened when a scene was resolved: the key of the scene, the handles that were placed and
the asset names that the host did not have, both in order, and the number of failed rolls. -/
structure Report (Handle : Type) where
  scene : String
  placed : List Handle := []
  missing : List String := []
  failedRolls : Nat := 0
  deriving DecidableEq

namespace Fate

variable {Handle : Type}

def handle? : Fate Handle → Option Handle
  | placed handle => some handle
  | _ => none

def missing? : Fate Handle → Option String
  | missing name => some name
  | _ => none

def isFailed : Fate Handle → Bool
  | failed => true
  | _ => false

end Fate

namespace Report

variable {Handle : Type}

/-- Adds what became of a directive. -/
def add (report : Report Handle) : Fate Handle → Report Handle
  | .missing name => { report with missing := report.missing ++ [name] }
  | .failed => { report with failedRolls := report.failedRolls + 1 }
  | .placed handle => { report with placed := report.placed ++ [handle] }

/-- The number of directives that the report accounts for. -/
def size (report : Report Handle) : Nat :=
  report.placed.length + report.missing.length + report.failedRolls

/-- Every directive is placed, missing or failed, and only one of these. -/
theorem size_add (report : Report Handle) (fate : Fate Handle) :
    (report.add fate).size = report.size + 1 := by
  cases fate <;> simp only [add, size, List.length_append, List.length_singleton] <;> omega

/-- The report on directives that fared like this. -/
def ofFates (scene : String) (fates : List (Directive × Fate Handle)) : Report Handle :=
  fates.foldl (fun report entry => report.add entry.2) { scene }

theorem foldl_add (report : Report Handle) (fates : List (Directive × Fate Handle)) :
    fates.foldl (fun report entry => report.add entry.2) report =
      { scene := report.scene
        placed := report.placed ++ fates.filterMap (·.2.handle?)
        missing := report.missing ++ fates.filterMap (·.2.missing?)
        failedRolls := report.failedRolls + fates.countP (·.2.isFailed) } := by
  induction fates generalizing report with
  | nil => simp
  | cons entry rest ih =>
      obtain ⟨directive, fate⟩ := entry
      rw [List.foldl_cons, ih]
      cases fate <;>
        simp [add, Fate.handle?, Fate.missing?, Fate.isFailed, Nat.add_assoc, Nat.add_comm 1]

theorem ofFates_eq (scene : String) (fates : List (Directive × Fate Handle)) :
    ofFates scene fates =
      { scene
        placed := fates.filterMap (·.2.handle?)
        missing := fates.filterMap (·.2.missing?)
        failedRolls := fates.countP (·.2.isFailed) } := by
  simp [ofFates, foldl_add]

end Report

/-- The collaborators of a resolution, and what it takes from the configuration. -/
structure Resolver (σ τ ρ Asset Handle : Type) where
  host : SceneHost σ Asset Handle
  scaler : Scaler τ
  random : RandomSource ρ
  itemPrefix : String
  nonGameScenes : List String

/-- The states of the collaborators. -/
structure Stage (σ τ ρ : Type) where
  host : σ
  scaler : τ
  random : ρ
  deriving DecidableEq

namespace Resolver

variable {σ τ ρ Asset Handle : Type}

/-- A chance that cannot succeed is not rolled against, whatever the random source would say. -/
def isHopeless (chance : Single) : Bool := chance.isNaN || chance.le .zero

/-- Takes one directive. -/
def resolveOne (resolver : Resolver σ τ ρ Asset Handle) (stage : Stage σ τ ρ)
    (directive : Directive) : Fate Handle × Stage σ τ ρ :=
  let name := itemName directive.prefab resolver.itemPrefix
  match resolver.host.find stage.host name with
  | (none, host) => (.missing name, { stage with host })
  | (some asset, host) =>
      let (chance, scaler) := resolver.scaler.adjust stage.scaler directive.chance directive
      if isHopeless chance then (.failed, ⟨host, scaler, stage.random⟩)
      else match resolver.random.roll stage.random chance with
        | (false, random) => (.failed, ⟨host, scaler, random⟩)
        | (true, random) =>
            let (handle, host) :=
              resolver.host.place host asset directive.position directive.rotation
            (.placed handle, ⟨host, scaler, random⟩)

/-- Takes directives in order and adds what becomes of them to a report. -/
def resolveAll (resolver : Resolver σ τ ρ Asset Handle) (report : Report Handle)
    (stage : Stage σ τ ρ) : List Directive → Report Handle × Stage σ τ ρ
  | [] => (report, stage)
  | directive :: rest =>
      let (fate, stage) := resolver.resolveOne stage directive
      resolver.resolveAll (report.add fate) stage rest

/-- What becomes of directives that are taken in order, one by one. -/
def fates (resolver : Resolver σ τ ρ Asset Handle) (stage : Stage σ τ ρ) :
    List Directive → List (Directive × Fate Handle) × Stage σ τ ρ
  | [] => ([], stage)
  | directive :: rest =>
      let (fate, stage) := resolver.resolveOne stage directive
      let (fates, stage) := resolver.fates stage rest
      ((directive, fate) :: fates, stage)

/-- Directives are taken one after the other. -/
theorem fates_append (resolver : Resolver σ τ ρ Asset Handle) (stage : Stage σ τ ρ)
    (first second : List Directive) :
    resolver.fates stage (first ++ second) =
      let before := resolver.fates stage first
      let after := resolver.fates before.2 second
      (before.1 ++ after.1, after.2) := by
  induction first generalizing stage with
  | nil => rfl
  | cons directive rest ih => simp [fates, ih]

/-- Every directive has one fate, in order. -/
theorem map_fst_fates (resolver : Resolver σ τ ρ Asset Handle) (stage : Stage σ τ ρ)
    (directives : List Directive) : (resolver.fates stage directives).1.map (·.1) = directives := by
  induction directives generalizing stage with
  | nil => rfl
  | cons directive rest ih => simp [fates, ih]

/-- The report grows by the fates of the directives. -/
theorem resolveAll_eq_foldl (resolver : Resolver σ τ ρ Asset Handle) (report : Report Handle)
    (stage : Stage σ τ ρ) (directives : List Directive) :
    resolver.resolveAll report stage directives =
      let (fates, after) := resolver.fates stage directives
      (fates.foldl (fun report entry => report.add entry.2) report, after) := by
  induction directives generalizing report stage with
  | nil => rfl
  | cons directive rest ih => simp [resolveAll, fates, ih]

/-- Every directive is accounted for once. -/
theorem size_resolveAll (resolver : Resolver σ τ ρ Asset Handle) (report : Report Handle)
    (stage : Stage σ τ ρ) (directives : List Directive) :
    (resolver.resolveAll report stage directives).1.size = report.size + directives.length := by
  induction directives generalizing report stage with
  | nil => rfl
  | cons directive rest ih =>
      rw [resolveAll, ih, Report.size_add, List.length_cons, Nat.add_assoc, Nat.add_comm 1]

/-- Resolves a scene by any spelling of its name. -/
def resolve (resolver : Resolver σ τ ρ Asset Handle) (store : SpawnStore) (scene : String)
    (stage : Stage σ τ ρ) : Report Handle × Stage σ τ ρ :=
  let key := sceneKey scene
  resolver.resolveAll { scene := key } stage (store.directives key)

theorem resolve_eq_ofFates (resolver : Resolver σ τ ρ Asset Handle) (store : SpawnStore)
    (scene : String) (stage : Stage σ τ ρ) :
    resolver.resolve store scene stage =
      let (fates, after) := resolver.fates stage (store.directives (sceneKey scene))
      (Report.ofFates (sceneKey scene) fates, after) :=
  resolver.resolveAll_eq_foldl { scene := sceneKey scene } stage _

/-- The scene is one that is not played. -/
def ignores (resolver : Resolver σ τ ρ Asset Handle) (scene : String) : Bool :=
  isNonGameScene scene resolver.nonGameScenes

/-- Resolves an activated scene and hands the report to a listener with a state of its own. A scene
that is not played is ignored. -/
def activate {α : Type} (resolver : Resolver σ τ ρ Asset Handle) (store : SpawnStore)
    (listener : α → Report Handle → α) (scene : String) (stage : Stage σ τ ρ) (audience : α) :
    Option (Report Handle) × Stage σ τ ρ × α :=
  if resolver.ignores scene then (none, stage, audience)
  else
    let (report, stage) := resolver.resolve store scene stage
    (some report, stage, listener audience report)

end Resolver

end LootSpawn
