import LootSpawn.Scene.Resolver

/-!
# What can become of a directive

Taking one directive ends in one of four ways, each fixed by what the collaborators answer: the host
has no asset, the adjusted chance is hopeless, the roll fails, or the roll succeeds and the asset is
placed. Directives that are taken in order fare one after the other, each with the collaborators as
those before it have left them.
-/

namespace LootSpawn

open Number

variable {σ τ ρ Asset Handle : Type}

/-- How a directive fares: the host has no asset for it, its adjusted chance is hopeless, its roll
fails, or it is placed. -/
inductive Attempt (Asset Handle : Type) where
  | missing
  | hopeless (asset : Asset) (chance : Single)
  | lost (asset : Asset) (chance : Single)
  | placed (asset : Asset) (chance : Single) (handle : Handle)

namespace Attempt

def isFound : Attempt Asset Handle → Bool
  | missing => false
  | _ => true

def isRolled : Attempt Asset Handle → Bool
  | lost .. => true
  | placed .. => true
  | _ => false

/-- The asset was found and not placed. -/
def isFailed : Attempt Asset Handle → Bool
  | hopeless .. => true
  | lost .. => true
  | _ => false

/-- The adjusted chance; there is none if the asset is missing. -/
def chance? : Attempt Asset Handle → Option Single
  | missing => none
  | hopeless _ chance => some chance
  | lost _ chance => some chance
  | placed _ chance _ => some chance

def handle? : Attempt Asset Handle → Option Handle
  | placed _ _ handle => some handle
  | _ => none

/-- The adjusted chance is the one that the rule gives for the directive. -/
def Follows (scale : Scaling) (entry : Directive × Attempt Asset Handle) : Prop :=
  ∀ chance ∈ entry.2.chance?, chance = scale entry.1.chance entry.1

/-- There is a roll if the asset is found and its chance can succeed, and not otherwise. -/
def RollsRightly (attempt : Attempt Asset Handle) : Prop :=
  attempt.isRolled = true ↔
    ∃ chance, attempt.chance? = some chance ∧ chance.isNaN = false ∧ chance.le .zero = false

end Attempt

/-- The scaler follows a rule, whatever its state. -/
def Scaler.Steady (scaler : Scaler τ) (scale : Scaling) : Prop :=
  ∀ state chance directive, (scaler.adjust state chance directive).1 = scale chance directive

theorem Scaler.steady_ofScaling (scale : Scaling) : (ofScaling scale).Steady scale :=
  fun _ _ _ => rfl

namespace Resolver

/-- The name of the asset of a directive. -/
def assetName (resolver : Resolver σ τ ρ Asset Handle) (directive : Directive) : String :=
  itemName directive.prefab resolver.itemPrefix

def fate (resolver : Resolver σ τ ρ Asset Handle) :
    Directive × Attempt Asset Handle → Fate Handle
  | (directive, .missing) => .missing (resolver.assetName directive)
  | (_, .hopeless ..) => .failed
  | (_, .lost ..) => .failed
  | (_, .placed _ _ handle) => .placed handle

theorem isHopeless_eq_true_iff (chance : Single) :
    isHopeless chance = true ↔ chance.isNaN = true ∨ chance.le .zero = true := by
  rw [isHopeless, Bool.or_eq_true]

theorem isHopeless_eq_false_iff (chance : Single) :
    isHopeless chance = false ↔ chance.isNaN = false ∧ chance.le .zero = false := by
  rw [isHopeless, Bool.or_eq_false_iff]

/-! ## One directive -/

/-- How a directive fares from a stage on, by what the collaborators answer, and the stage after
it. -/
inductive Fares (resolver : Resolver σ τ ρ Asset Handle) (stage : Stage σ τ ρ)
    (directive : Directive) : Attempt Asset Handle → Stage σ τ ρ → Prop where
  | missing {host : σ}
      (find : resolver.host.find stage.host (resolver.assetName directive) = (none, host)) :
      Fares resolver stage directive .missing ⟨host, stage.scaler, stage.random⟩
  | hopeless {asset : Asset} {host : σ} {chance : Single} {scaler : τ}
      (find : resolver.host.find stage.host (resolver.assetName directive) = (some asset, host))
      (adjust : resolver.scaler.adjust stage.scaler directive.chance directive = (chance, scaler))
      (isHopeless : isHopeless chance = true) :
      Fares resolver stage directive (.hopeless asset chance) ⟨host, scaler, stage.random⟩
  | lost {asset : Asset} {host : σ} {chance : Single} {scaler : τ} {random : ρ}
      (find : resolver.host.find stage.host (resolver.assetName directive) = (some asset, host))
      (adjust : resolver.scaler.adjust stage.scaler directive.chance directive = (chance, scaler))
      (isHopeless : isHopeless chance = false)
      (roll : resolver.random.roll stage.random chance = (false, random)) :
      Fares resolver stage directive (.lost asset chance) ⟨host, scaler, random⟩
  | placed {asset : Asset} {host host' : σ} {chance : Single} {scaler : τ} {random : ρ}
      {handle : Handle}
      (find : resolver.host.find stage.host (resolver.assetName directive) = (some asset, host))
      (adjust : resolver.scaler.adjust stage.scaler directive.chance directive = (chance, scaler))
      (isHopeless : isHopeless chance = false)
      (roll : resolver.random.roll stage.random chance = (true, random))
      (place : resolver.host.place host asset directive.position directive.rotation =
        (handle, host')) :
      Fares resolver stage directive (.placed asset chance handle) ⟨host', scaler, random⟩

section Step

variable {resolver : Resolver σ τ ρ Asset Handle} {stage after : Stage σ τ ρ}
  {directive : Directive} {attempt : Attempt Asset Handle}

/-- A directive fares in one way at least. -/
theorem exists_fares (resolver : Resolver σ τ ρ Asset Handle) (stage : Stage σ τ ρ)
    (directive : Directive) :
    ∃ (attempt : Attempt Asset Handle) (after : Stage σ τ ρ),
      resolver.Fares stage directive attempt after := by
  rcases hfind : resolver.host.find stage.host (resolver.assetName directive) with
    ⟨_ | asset, host⟩
  · exact ⟨_, _, .missing hfind⟩
  rcases hadjust : resolver.scaler.adjust stage.scaler directive.chance directive with
    ⟨chance, scaler⟩
  cases hhopeless : isHopeless chance with
  | true => exact ⟨_, _, .hopeless hfind hadjust hhopeless⟩
  | false =>
      rcases hroll : resolver.random.roll stage.random chance with ⟨_ | _, random⟩
      · exact ⟨_, _, .lost hfind hadjust hhopeless hroll⟩
      · exact ⟨_, _, .placed hfind hadjust hhopeless hroll rfl⟩

namespace Fares

/-- How a directive fares is what becomes of it when it is taken. -/
theorem resolveOne_eq (h : resolver.Fares stage directive attempt after) :
    resolver.resolveOne stage directive = (resolver.fate (directive, attempt), after) := by
  cases h with
  | missing hfind =>
      rw [assetName] at hfind
      simp only [resolveOne, hfind]
      rfl
  | hopeless hfind hadjust hhopeless =>
      rw [assetName] at hfind
      simp only [resolveOne, hfind, hadjust, hhopeless, if_true]
      rfl
  | lost hfind hadjust hhopeless hroll =>
      rw [assetName] at hfind
      simp only [resolveOne, hfind, hadjust, hhopeless, hroll, Bool.false_eq_true, if_false]
      rfl
  | placed hfind hadjust hhopeless hroll hplace =>
      rw [assetName] at hfind
      simp only [resolveOne, hfind, hadjust, hhopeless, hroll, hplace, Bool.false_eq_true,
        if_false]
      rfl

theorem rollsRightly (h : resolver.Fares stage directive attempt after) :
    attempt.RollsRightly := by
  cases h with
  | missing => exact iff_of_false Bool.false_ne_true fun ⟨_, hchance, _⟩ => nomatch hchance
  | hopeless _ _ hhopeless =>
      refine iff_of_false Bool.false_ne_true ?_
      rintro ⟨chance, hchance, hhope⟩
      cases hchance
      rw [(isHopeless_eq_false_iff _).mpr hhope] at hhopeless
      cases hhopeless
  | lost _ _ hhopeless => exact iff_of_true rfl ⟨_, rfl, (isHopeless_eq_false_iff _).mp hhopeless⟩
  | placed _ _ hhopeless =>
      exact iff_of_true rfl ⟨_, rfl, (isHopeless_eq_false_iff _).mp hhopeless⟩

/-- Under a steady scaler the chance is the one that its rule gives. -/
theorem follows (h : resolver.Fares stage directive attempt after) {scale : Scaling}
    (hscaler : resolver.scaler.Steady scale) : Attempt.Follows scale (directive, attempt) := by
  have hadjusted : ∀ {chance scaler},
      resolver.scaler.adjust stage.scaler directive.chance directive = (chance, scaler) →
        ∀ found ∈ some chance, found = scale directive.chance directive := by
    intro chance scaler hadjust found hfound
    cases hfound
    rw [← hscaler stage.scaler, hadjust]
  cases h with
  | missing => exact fun _ hchance => nomatch hchance
  | hopeless _ hadjust => exact hadjusted hadjust
  | lost _ hadjust => exact hadjusted hadjust
  | placed _ hadjust => exact hadjusted hadjust

end Fares

end Step

/-! ## Directives in order -/

/-- How directives fare one after the other, and the stage after all of them. -/
inductive FaresAll (resolver : Resolver σ τ ρ Asset Handle) :
    Stage σ τ ρ → List (Directive × Attempt Asset Handle) → Stage σ τ ρ → Prop where
  | nil (stage : Stage σ τ ρ) : FaresAll resolver stage [] stage
  | cons {stage middle after : Stage σ τ ρ} {directive : Directive}
      {attempt : Attempt Asset Handle} {rest : List (Directive × Attempt Asset Handle)}
      (head : resolver.Fares stage directive attempt middle)
      (tail : FaresAll resolver middle rest after) :
      FaresAll resolver stage ((directive, attempt) :: rest) after

/-- The report on attempts. -/
def reportOf (resolver : Resolver σ τ ρ Asset Handle) (scene : String)
    (attempts : List (Directive × Attempt Asset Handle)) : Report Handle :=
  .ofFates scene (attempts.map fun entry => (entry.1, resolver.fate entry))

section Run

variable {resolver : Resolver σ τ ρ Asset Handle} {stage after : Stage σ τ ρ}
  {attempts : List (Directive × Attempt Asset Handle)}

theorem exists_faresAll (resolver : Resolver σ τ ρ Asset Handle) (stage : Stage σ τ ρ)
    (directives : List Directive) :
    ∃ (attempts : List (Directive × Attempt Asset Handle)) (after : Stage σ τ ρ),
      attempts.map Prod.fst = directives ∧ resolver.FaresAll stage attempts after := by
  induction directives generalizing stage with
  | nil => exact ⟨[], stage, rfl, .nil stage⟩
  | cons directive rest ih =>
      obtain ⟨attempt, middle, hone⟩ := resolver.exists_fares stage directive
      obtain ⟨attempts, after, hfst, hrest⟩ := ih middle
      exact ⟨(directive, attempt) :: attempts, after, by rw [List.map_cons, hfst],
        .cons hone hrest⟩

namespace FaresAll

theorem fates_eq (h : resolver.FaresAll stage attempts after) :
    resolver.fates stage (attempts.map Prod.fst) =
      (attempts.map fun entry => (entry.1, resolver.fate entry), after) := by
  induction h with
  | nil => rfl
  | cons hone _ ih => simp only [List.map_cons, fates, hone.resolveOne_eq, ih]

theorem append {middle : Stage σ τ ρ} {more : List (Directive × Attempt Asset Handle)}
    (h : resolver.FaresAll stage attempts middle) (hmore : resolver.FaresAll middle more after) :
    resolver.FaresAll stage (attempts ++ more) after := by
  induction h with
  | nil => exact hmore
  | cons hone _ ih => exact .cons hone (ih hmore)

/-- What holds of every single directive holds of all that are taken in order. -/
theorem forall_mem (h : resolver.FaresAll stage attempts after)
    {holds : Directive × Attempt Asset Handle → Prop}
    (hone : ∀ {stage directive attempt middle},
      resolver.Fares stage directive attempt middle → holds (directive, attempt)) :
    ∀ entry ∈ attempts, holds entry := by
  induction h with
  | nil => exact List.forall_mem_nil _
  | cons hhead _ ih => exact List.forall_mem_cons.mpr ⟨hone hhead, ih⟩

theorem rollsRightly (h : resolver.FaresAll stage attempts after) :
    ∀ entry ∈ attempts, entry.2.RollsRightly :=
  h.forall_mem Fares.rollsRightly

theorem follows (h : resolver.FaresAll stage attempts after) {scale : Scaling}
    (hscaler : resolver.scaler.Steady scale) :
    ∀ entry ∈ attempts, Attempt.Follows scale entry :=
  h.forall_mem fun hone => hone.follows hscaler

/-- Resolving a scene is taking its directives in order, with a report on how they fare. -/
theorem resolve_eq {store : SpawnStore} {scene : String}
    (h : resolver.FaresAll stage attempts after)
    (hfst : attempts.map Prod.fst = store.directives (sceneKey scene)) :
    resolver.resolve store scene stage = (resolver.reportOf (sceneKey scene) attempts, after) := by
  rw [resolve_eq_ofFates, ← hfst, h.fates_eq]
  rfl

end FaresAll

end Run

end Resolver

end LootSpawn
