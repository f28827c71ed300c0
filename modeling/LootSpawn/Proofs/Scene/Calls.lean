import LootSpawn.Proofs.Scene.Outcomes
import LootSpawn.Proofs.Store.SpawnContents
import LootSpawn.Scene.Rehearsal

/-!
# What a resolution asks of its collaborators

Host, scaler and random source can be made to note every call they get, with its answer, without a
change to what they do. The notes of a resolution are accounted for by its directives, one after the
other: the host is asked for each once, the chance is adjusted once if the host has the asset and
rolled against once if it is not hopeless, and the asset is placed if the roll succeeds.
-/

namespace LootSpawn

open Number

variable {σ τ ρ Asset Handle : Type}

/-! ## Collaborators that note their calls -/

/-- A call of the host and its answer. -/
inductive HostCall (Asset Handle : Type) where
  | find (name : String) (answer : Option Asset)
  | place (asset : Asset) (position rotation : Vector3) (handle : Handle)
  deriving DecidableEq

/-- The name that the host was asked for. -/
def HostCall.asked? : HostCall Asset Handle → Option String
  | .find name _ => some name
  | .place .. => none

/-- A call of the scaler and its answer. -/
structure Adjustment where
  declared : Single
  directive : Directive
  adjusted : Single
  deriving DecidableEq

/-- The calls of the host, those of the scaler, and the chances of the rolls, each with its answer
and in order. -/
structure Notes (Asset Handle : Type) where
  calls : List (HostCall Asset Handle) := []
  adjustments : List Adjustment := []
  rolls : List (Single × Bool) := []
  deriving DecidableEq

namespace Notes

instance : Append (Notes Asset Handle) :=
  ⟨fun first second => ⟨first.calls ++ second.calls, first.adjustments ++ second.adjustments,
    first.rolls ++ second.rolls⟩⟩

theorem append_eq (first second : Notes Asset Handle) :
    first ++ second = ⟨first.calls ++ second.calls, first.adjustments ++ second.adjustments,
      first.rolls ++ second.rolls⟩ := rfl

@[simp]
theorem append_nil (notes : Notes Asset Handle) : notes ++ ({} : Notes Asset Handle) = notes := by
  simp [append_eq]

@[simp]
theorem nil_append (notes : Notes Asset Handle) : ({} : Notes Asset Handle) ++ notes = notes := rfl

theorem append_assoc (first second third : Notes Asset Handle) :
    first ++ second ++ third = first ++ (second ++ third) := by
  simp only [append_eq, List.append_assoc]

end Notes

/-- The host, with its calls noted. -/
def SceneHost.noting (host : SceneHost σ Asset Handle) :
    SceneHost (σ × List (HostCall Asset Handle)) Asset Handle where
  find seen name :=
    let (answer, state) := host.find seen.1 name
    (answer, state, seen.2 ++ [.find name answer])
  place seen asset position rotation :=
    let (handle, state) := host.place seen.1 asset position rotation
    (handle, state, seen.2 ++ [.place asset position rotation handle])

theorem SceneHost.find_noting {host : SceneHost σ Asset Handle} {state after : σ} {name : String}
    {answer : Option Asset} (h : host.find state name = (answer, after))
    (calls : List (HostCall Asset Handle)) :
    host.noting.find (state, calls) name = (answer, after, calls ++ [.find name answer]) := by
  simp only [noting, h]

theorem SceneHost.place_noting {host : SceneHost σ Asset Handle} {state after : σ} {asset : Asset}
    {position rotation : Vector3} {handle : Handle}
    (h : host.place state asset position rotation = (handle, after))
    (calls : List (HostCall Asset Handle)) :
    host.noting.place (state, calls) asset position rotation =
      (handle, after, calls ++ [.place asset position rotation handle]) := by
  simp only [noting, h]

/-- The scaler, with its calls noted. -/
def Scaler.noting (scaler : Scaler τ) : Scaler (τ × List Adjustment) where
  adjust seen declared directive :=
    let (adjusted, state) := scaler.adjust seen.1 declared directive
    (adjusted, state, seen.2 ++ [⟨declared, directive, adjusted⟩])

theorem Scaler.adjust_noting {scaler : Scaler τ} {state after : τ} {declared adjusted : Single}
    {directive : Directive} (h : scaler.adjust state declared directive = (adjusted, after))
    (adjustments : List Adjustment) :
    scaler.noting.adjust (state, adjustments) declared directive =
      (adjusted, after, adjustments ++ [⟨declared, directive, adjusted⟩]) := by
  simp only [noting, h]

/-- The random source, with its rolls noted. -/
def RandomSource.noting (random : RandomSource ρ) : RandomSource (ρ × List (Single × Bool)) where
  roll seen chance :=
    let (success, state) := random.roll seen.1 chance
    (success, state, seen.2 ++ [(chance, success)])

theorem RandomSource.roll_noting {random : RandomSource ρ} {state after : ρ} {chance : Single}
    {success : Bool} (h : random.roll state chance = (success, after))
    (rolls : List (Single × Bool)) :
    random.noting.roll (state, rolls) chance =
      (success, after, rolls ++ [(chance, success)]) := by
  simp only [noting, h]

/-- The stage with the notes of all collaborators. -/
def Stage.withNotes (stage : Stage σ τ ρ) (notes : Notes Asset Handle) :
    Stage (σ × List (HostCall Asset Handle)) (τ × List Adjustment) (ρ × List (Single × Bool)) :=
  ⟨(stage.host, notes.calls), (stage.scaler, notes.adjustments), (stage.random, notes.rolls)⟩

/-- The resolver with collaborators that note their calls. -/
def Resolver.noting (resolver : Resolver σ τ ρ Asset Handle) :
    Resolver (σ × List (HostCall Asset Handle)) (τ × List Adjustment) (ρ × List (Single × Bool))
      Asset Handle :=
  ⟨resolver.host.noting, resolver.scaler.noting, resolver.random.noting, resolver.itemPrefix,
    resolver.nonGameScenes⟩

/-! ## The notes of attempts -/

namespace Attempt

/-- The calls of the scaler for a directive: one if its asset is found. -/
def adjustments : Directive × Attempt Asset Handle → List Adjustment
  | (_, .missing) => []
  | (directive, .hopeless _ chance) => [⟨directive.chance, directive, chance⟩]
  | (directive, .lost _ chance) => [⟨directive.chance, directive, chance⟩]
  | (directive, .placed _ chance _) => [⟨directive.chance, directive, chance⟩]

/-- The rolls for a directive: at most one, against the adjusted chance. -/
def rolls : Directive × Attempt Asset Handle → List (Single × Bool)
  | (_, .missing) => []
  | (_, .hopeless ..) => []
  | (_, .lost _ chance) => [(chance, false)]
  | (_, .placed _ chance _) => [(chance, true)]

end Attempt

namespace Resolver

/-- The calls that the host gets for a directive. -/
def hostCalls (resolver : Resolver σ τ ρ Asset Handle) :
    Directive × Attempt Asset Handle → List (HostCall Asset Handle)
  | (directive, .missing) => [.find (resolver.assetName directive) none]
  | (directive, .hopeless asset _) => [.find (resolver.assetName directive) (some asset)]
  | (directive, .lost asset _) => [.find (resolver.assetName directive) (some asset)]
  | (directive, .placed asset _ handle) =>
      [.find (resolver.assetName directive) (some asset),
        .place asset directive.position directive.rotation handle]

/-- What is noted for attempts, one after the other. -/
def notesOf (resolver : Resolver σ τ ρ Asset Handle)
    (attempts : List (Directive × Attempt Asset Handle)) : Notes Asset Handle :=
  ⟨attempts.flatMap resolver.hostCalls, attempts.flatMap Attempt.adjustments,
    attempts.flatMap Attempt.rolls⟩

section Noting

variable {resolver : Resolver σ τ ρ Asset Handle} {stage after : Stage σ τ ρ}
  {directive : Directive} {attempt : Attempt Asset Handle}
  {attempts : List (Directive × Attempt Asset Handle)}

@[simp]
theorem notesOf_nil : resolver.notesOf [] = {} := rfl

theorem notesOf_append (first second : List (Directive × Attempt Asset Handle)) :
    resolver.notesOf (first ++ second) = resolver.notesOf first ++ resolver.notesOf second := by
  simp only [notesOf, List.flatMap_append, Notes.append_eq]

theorem notesOf_cons (entry : Directive × Attempt Asset Handle) :
    resolver.notesOf (entry :: attempts) = resolver.notesOf [entry] ++ resolver.notesOf attempts :=
  notesOf_append [entry] attempts

/-- The stage and the notes after a directive. -/
theorem withNotes_append (notes : Notes Asset Handle) :
    after.withNotes (notes ++ resolver.notesOf [(directive, attempt)]) =
      ⟨(after.host, notes.calls ++ resolver.hostCalls (directive, attempt)),
        (after.scaler, notes.adjustments ++ Attempt.adjustments (directive, attempt)),
        (after.random, notes.rolls ++ Attempt.rolls (directive, attempt))⟩ := by
  simp only [Stage.withNotes, Notes.append_eq, notesOf, List.flatMap_singleton]

/-- Collaborators that note their calls answer as they did, and the notes grow by the calls for the
directive. -/
theorem Fares.noting (h : resolver.Fares stage directive attempt after)
    (notes : Notes Asset Handle) :
    resolver.noting.Fares (stage.withNotes notes) directive attempt
      (after.withNotes (notes ++ resolver.notesOf [(directive, attempt)])) := by
  rw [withNotes_append]
  cases h with
  | missing hfind =>
      simp only [hostCalls, Attempt.adjustments, Attempt.rolls, List.append_nil]
      exact .missing (SceneHost.find_noting hfind _)
  | hopeless hfind hadjust hhopeless =>
      simp only [hostCalls, Attempt.adjustments, Attempt.rolls, List.append_nil]
      exact .hopeless (SceneHost.find_noting hfind _) (Scaler.adjust_noting hadjust _) hhopeless
  | lost hfind hadjust hhopeless hroll =>
      simp only [hostCalls, Attempt.adjustments, Attempt.rolls]
      exact .lost (SceneHost.find_noting hfind _) (Scaler.adjust_noting hadjust _) hhopeless
        (RandomSource.roll_noting hroll _)
  | @placed asset _ _ _ _ _ _ hfind hadjust hhopeless hroll hplace =>
      have hnoted := SceneHost.place_noting hplace (notes.calls ++
        [.find (resolver.assetName directive) (some asset)])
      rw [List.append_assoc] at hnoted
      simp only [hostCalls, Attempt.adjustments, Attempt.rolls]
      exact .placed (SceneHost.find_noting hfind _) (Scaler.adjust_noting hadjust _) hhopeless
        (RandomSource.roll_noting hroll _) hnoted

/-- The notes of directives that are taken in order are those of each, one after the other. -/
theorem FaresAll.noting (h : resolver.FaresAll stage attempts after)
    (notes : Notes Asset Handle) :
    resolver.noting.FaresAll (stage.withNotes notes) attempts
      (after.withNotes (notes ++ resolver.notesOf attempts)) := by
  induction h generalizing notes with
  | nil =>
      rw [notesOf_nil, Notes.append_nil]
      exact .nil _
  | cons hone _ ih =>
      rw [notesOf_cons, ← Notes.append_assoc]
      exact .cons (hone.noting notes) (ih _)

/-- With collaborators that note their calls a scene is resolved as without the notes. -/
theorem FaresAll.resolve_noting {store : SpawnStore} {scene : String}
    (h : resolver.FaresAll stage attempts after)
    (hfst : attempts.map Prod.fst = store.directives (sceneKey scene))
    (notes : Notes Asset Handle) :
    resolver.noting.resolve store scene (stage.withNotes notes) =
      (resolver.reportOf (sceneKey scene) attempts,
        after.withNotes (notes ++ resolver.notesOf attempts)) :=
  (h.noting notes).resolve_eq hfst

end Noting

/-! ## The views of the report -/

variable (resolver : Resolver σ τ ρ Asset Handle) (scene : String)
  (attempts : List (Directive × Attempt Asset Handle))

theorem missing_reportOf : (resolver.reportOf scene attempts).missing =
    (attempts.filter fun entry => !entry.2.isFound).map fun entry =>
      resolver.assetName entry.1 := by
  simp only [reportOf, Report.ofFates_eq, List.filterMap_map]
  rw [← List.filterMap_eq_map, List.filterMap_filter]
  apply List.filterMap_congr
  rintro ⟨directive, attempt⟩ -
  cases attempt <;> rfl

theorem placed_reportOf : (resolver.reportOf scene attempts).placed =
    attempts.filterMap fun entry => entry.2.handle? := by
  rw [reportOf, Report.ofFates_eq, List.filterMap_map]
  apply List.filterMap_congr
  rintro ⟨directive, attempt⟩ -
  cases attempt <;> rfl

theorem failedRolls_reportOf : (resolver.reportOf scene attempts).failedRolls =
    attempts.countP fun entry => entry.2.isFailed := by
  rw [reportOf, Report.ofFates_eq, List.countP_map]
  apply List.countP_congr
  rintro ⟨directive, attempt⟩ -
  cases attempt <;> simp [fate, Fate.isFailed, Attempt.isFailed]

theorem asked?_hostCalls : (resolver.notesOf attempts).calls.filterMap HostCall.asked? =
    attempts.map fun entry => resolver.assetName entry.1 := by
  rw [notesOf, List.filterMap_flatMap, List.map_eq_flatMap]
  congr 1
  funext entry
  obtain ⟨directive, attempt⟩ := entry
  cases attempt <;> rfl

/-- The report is on the scene, by its key. -/
theorem scene_resolve (resolver : Resolver σ τ ρ Asset Handle) (store : SpawnStore)
    (scene : String) (stage : Stage σ τ ρ) :
    (resolver.resolve store scene stage).1.scene = sceneKey scene := by
  rw [resolve_eq_ofFates]
  simp only [Report.ofFates_eq]

/-- The report accounts for every directive of the scene. -/
theorem size_resolve (resolver : Resolver σ τ ρ Asset Handle) (store : SpawnStore)
    (scene : String) (stage : Stage σ τ ρ) :
    (resolver.resolve store scene stage).1.size = (store.directives scene).length := by
  rw [resolve, size_resolveAll, SpawnStore.directives_sceneKey]
  exact Nat.zero_add _

/-- The names that the host is asked for when a scene is resolved, in order. -/
def asked (resolver : Resolver σ τ ρ Asset Handle) (store : SpawnStore) (scene : String)
    (stage : Stage σ τ ρ) : List String :=
  (resolver.noting.resolve store scene (stage.withNotes {})).2.host.2.filterMap HostCall.asked?

theorem asked_eq (resolver : Resolver σ τ ρ Asset Handle) (store : SpawnStore) (scene : String)
    (stage : Stage σ τ ρ) :
    resolver.asked store scene stage = (store.directives scene).map resolver.assetName := by
  obtain ⟨attempts, after, hfst, hall⟩ :=
    resolver.exists_faresAll stage (store.directives (sceneKey scene))
  have hcalls := resolver.asked?_hostCalls attempts
  rw [asked, hall.resolve_noting hfst, Notes.nil_append, ← SpawnStore.directives_sceneKey, ← hfst,
    List.map_map]
  exact hcalls

/-- Resolving a scene makes one attempt for each of its directives, in the order in which they were
recorded. The host is asked for each asset once and gets a call to place for each success; the
scaler is asked once for each asset that is found, and the random source with the adjusted chance
for each directive that it can decide, once and for no other one. Every directive is missing, failed
or placed, and the report shows these in order. A directive with a hopeless chance is never placed.
Noting the calls changes nothing. -/
theorem resolution_partition (resolver : Resolver σ τ ρ Asset Handle) (store : SpawnStore)
    (scene : String) (stage : Stage σ τ ρ) :
    ∃ (attempts : List (Directive × Attempt Asset Handle)) (report : Report Handle)
      (after : Stage σ τ ρ),
      resolver.resolve store scene stage = (report, after) ∧
      resolver.noting.resolve store scene (stage.withNotes {}) =
        (report, after.withNotes (resolver.notesOf attempts)) ∧
      attempts.map Prod.fst = store.directives scene ∧
      (resolver.notesOf attempts).calls.filterMap HostCall.asked? =
        (store.directives scene).map resolver.assetName ∧
      (∀ entry ∈ attempts, entry.2.RollsRightly) ∧
      report.missing = (attempts.filter fun entry => !entry.2.isFound).map
        (fun entry => resolver.assetName entry.1) ∧
      report.failedRolls = (attempts.countP fun entry => entry.2.isFailed) ∧
      report.placed = attempts.filterMap (fun entry => entry.2.handle?) ∧
      report.placed.length + report.missing.length + report.failedRolls =
        (store.directives scene).length ∧
      ∀ entry ∈ attempts, ∀ chance ∈ entry.2.chance?,
        chance.isNaN = true ∨ chance.le .zero = true → entry.2.handle? = none := by
  obtain ⟨attempts, after, hfst, hall⟩ :=
    resolver.exists_faresAll stage (store.directives (sceneKey scene))
  have hresolve := hall.resolve_eq hfst
  have hsize := resolver.size_resolve store scene stage
  rw [hresolve] at hsize
  rw [SpawnStore.directives_sceneKey] at hfst
  refine ⟨attempts, resolver.reportOf (sceneKey scene) attempts, after, hresolve, ?_, hfst, ?_,
    hall.rollsRightly, resolver.missing_reportOf _ _, resolver.failedRolls_reportOf _ _,
    resolver.placed_reportOf _ _, hsize, ?_⟩
  · rw [hall.resolve_noting (by rw [hfst, SpawnStore.directives_sceneKey]), Notes.nil_append]
  · rw [asked?_hostCalls, ← hfst, List.map_map]
    rfl
  · rintro ⟨directive, attempt⟩ hentry chance hchance hhopeless
    have hrolls := hall.rollsRightly _ hentry
    rw [← isHopeless_eq_true_iff] at hhopeless
    cases attempt with
    | placed asset found handle =>
        obtain ⟨other, hother, hhope⟩ := hrolls.mp rfl
        cases hchance.symm.trans hother
        rw [(isHopeless_eq_false_iff _).mpr hhope] at hhopeless
        cases hhopeless
    | _ => rfl

end Resolver

/-- A scene with a directive for each way to fare. -/
def cabinStore : SpawnStore :=
  ({} : SpawnStore).recordAll [("Cabin", { prefab := "rope" }),
    ("CABIN", { prefab := "flare", chance := .zero }),
    ("cabin", { prefab := "lamp", chance := .ofNat 50 }),
    ("Cabin", { prefab := "axe", chance := .ofNat 50 })]

def cabinStage : Stage RehearsalHost Unit RehearsalRandom :=
  ⟨{ missing := ["GEAR_rope"] }, (), { rule := .script [false, true] 0 }⟩

theorem Resolver.resolution_partition_cabin :
    ∃ (attempts : List (Directive × Attempt String Placement)) (report : Report Placement)
      (after : Stage RehearsalHost Unit RehearsalRandom),
      (rehearsal {} .unchanged).resolve cabinStore "cabin" cabinStage = (report, after) ∧
      attempts.map (fun entry => entry.1.prefab) = ["rope", "flare", "lamp", "axe"] ∧
      ((rehearsal {} .unchanged).notesOf attempts).calls.filterMap HostCall.asked? =
        ["GEAR_rope", "GEAR_flare", "GEAR_lamp", "GEAR_axe"] ∧
      report.missing.length = 1 ∧ report.failedRolls = 2 ∧
      report.placed = [⟨"GEAR_axe", .zero, .zero⟩] ∧
      ∀ entry ∈ attempts, entry.2.chance? = some .zero → entry.2.handle? = none := by
  obtain ⟨attempts, report, after, hresolve, -, hfst, hasked, -, -, -, -, -, hnever⟩ :=
    (rehearsal {} .unchanged).resolution_partition cabinStore "cabin" cabinStage
  have hreport : report = ((rehearsal {} .unchanged).resolve cabinStore "cabin" cabinStage).1 := by
    rw [hresolve]
  refine ⟨attempts, report, after, hresolve, ?_, ?_, ?_, ?_, ?_, ?_⟩
  · have hnames := congrArg (List.map Directive.prefab) hfst
    rw [List.map_map] at hnames
    exact hnames.trans (by decide +kernel)
  · rw [hasked]
    decide +kernel
  · rw [hreport]
    decide +kernel
  · rw [hreport]
    decide +kernel
  · rw [hreport]
    decide +kernel
  · exact fun entry hentry hzero => hnever entry hentry _ hzero (Or.inr (by decide +kernel))

end LootSpawn
