import LootSpawn.Proofs.Scene.SeededRolls

/-!
# Raised chances

A seeded roll takes a word from its stream exactly when its chance leaves the outcome open. If
chances are raised and leave the outcome open for the same directives, two resolutions from one
position of the stream stay at one position: a roll that succeeded against the lower chance compares
the same word with the higher one and succeeds again. With a steady host every handle that is placed
under the lower chances is therefore placed under the higher ones, in the same order.
-/

namespace LootSpawn

open Number

variable {σ τ τ' Asset Handle : Type}

namespace Number.Single

theorem le_iff {x y : Single} :
    x.le y = true ↔ ∃ a b, x.position? = some a ∧ y.position? = some b ∧ a ≤ b := by
  unfold le
  cases x.position? with
  | none => simp
  | some a =>
      cases y.position? with
      | none => simp
      | some b => simp

theorem lt_iff {x y : Single} :
    x.lt y = true ↔ ∃ a b, x.position? = some a ∧ y.position? = some b ∧ a < b := by
  unfold lt
  cases x.position? with
  | none => simp
  | some a =>
      cases y.position? with
      | none => simp
      | some b => simp

theorem le_trans {x y z : Single} (hxy : x.le y = true) (hyz : y.le z = true) :
    x.le z = true := by
  obtain ⟨a, b, hx, hy, hab⟩ := le_iff.mp hxy
  obtain ⟨b', c, hy', hz, hbc⟩ := le_iff.mp hyz
  obtain rfl : b = b' := Option.some.inj (hy.symm.trans hy')
  exact le_iff.mpr ⟨a, c, hx, hz, Int.le_trans hab hbc⟩

theorem lt_of_lt_of_le {x y z : Single} (hxy : x.lt y = true) (hyz : y.le z = true) :
    x.lt z = true := by
  obtain ⟨a, b, hx, hy, hab⟩ := lt_iff.mp hxy
  obtain ⟨b', c, hy', hz, hbc⟩ := le_iff.mp hyz
  obtain rfl : b = b' := Option.some.inj (hy.symm.trans hy')
  exact lt_iff.mpr ⟨a, c, hx, hz, Int.lt_of_lt_of_le hab hbc⟩

/-- Without `nan`, of two numbers one is at or below the other. -/
theorem lt_or_le {x y : Single} (hx : x.isNaN = false) (hy : y.isNaN = false) :
    x.lt y = true ∨ y.le x = true := by
  have hposition : ∀ {z : Single}, z.isNaN = false → ∃ a, z.position? = some a := by
    intro z hz
    cases z with
    | nan => cases hz
    | _ => exact ⟨_, rfl⟩
  obtain ⟨a, ha⟩ := hposition hx
  obtain ⟨b, hb⟩ := hposition hy
  rcases Int.lt_or_le a b with hab | hba
  · exact Or.inl (lt_iff.mpr ⟨a, b, ha, hb, hab⟩)
  · exact Or.inr (le_iff.mpr ⟨b, a, hb, ha, hba⟩)

/-- As a chance, the number leaves the outcome of a roll open. -/
def IsOpen (chance : Single) : Prop := zero.lt chance = true ∧ chance.lt hundred = true

end Number.Single

/-! ## Rolls -/

namespace Resolver

/-- A chance is hopeless, open or certain. -/
theorem chance_cases (chance : Single) :
    isHopeless chance = true ∨ chance.IsOpen ∨ Single.hundred.le chance = true := by
  rw [isHopeless_eq_true_iff]
  cases hnan : chance.isNaN with
  | true => exact Or.inl (Or.inl rfl)
  | false =>
      rcases Single.lt_or_le (x := .zero) rfl hnan with hpositive | hle
      · rcases Single.lt_or_le (y := .hundred) hnan rfl with hbelow | hcertain
        · exact Or.inr (Or.inl ⟨hpositive, hbelow⟩)
        · exact Or.inr (Or.inr hcertain)
      · exact Or.inl (Or.inr hle)

theorem isHopeless_of_zero_lt {chance : Single} (h : Single.zero.lt chance = true) :
    isHopeless chance = false := by
  obtain ⟨a, b, hzero, hchance, hab⟩ := Single.lt_iff.mp h
  cases chance with
  | nan => cases hchance
  | _ => simp [isHopeless, Single.isNaN, Single.le, hzero, hchance, hab]

theorem isHopeless_of_hundred_le {chance : Single} (h : Single.hundred.le chance = true) :
    isHopeless chance = false :=
  isHopeless_of_zero_lt (Single.lt_of_lt_of_le (by decide +kernel) h)

end Resolver

namespace Keystream

variable (stream : Keystream) {chance : Single}

theorem roll_of_isHopeless (h : Resolver.isHopeless chance = true) :
    stream.roll chance = (false, stream) := by
  rw [Resolver.isHopeless] at h
  rw [roll, if_pos h]

theorem roll_of_hundred_le (h : Single.hundred.le chance = true) :
    stream.roll chance = (true, stream) := by
  have hhope := Resolver.isHopeless_of_hundred_le h
  rw [Resolver.isHopeless] at hhope
  rw [roll, hhope, if_neg Bool.false_ne_true, if_pos h]

theorem roll_of_isOpen (h : chance.IsOpen) :
    stream.roll chance = ((percentOfWord stream.next.1).lt chance, stream.next.2) := by
  have hhope := Resolver.isHopeless_of_zero_lt h.1
  rw [Resolver.isHopeless] at hhope
  have hbelow : Single.hundred.le chance = false := by
    obtain ⟨a, b, hchance, hhundred, hab⟩ := Single.lt_iff.mp h.2
    simp [Single.le, hchance, hhundred, hab]
  rw [roll, hhope, hbelow, if_neg Bool.false_ne_true, if_neg Bool.false_ne_true]

/-- Against a higher chance that leaves the outcome open just as the lower one does, a roll takes
the same from the stream and succeeds again if it did. -/
theorem roll_mono {low high : Single} (hle : low.le high = true)
    (hopen : low.IsOpen ↔ high.IsOpen) :
    (stream.roll low).2 = (stream.roll high).2 ∧
      ((stream.roll low).1 = true → (stream.roll high).1 = true) := by
  by_cases hlow : low.IsOpen
  · rw [stream.roll_of_isOpen hlow, stream.roll_of_isOpen (hopen.mp hlow)]
    simp only [true_and]
    intro hsuccess
    exact Single.lt_of_lt_of_le hsuccess hle
  · have hhigh : ¬ high.IsOpen := fun h => hlow (hopen.mpr h)
    have hsettled : ∀ {chance : Single}, ¬ chance.IsOpen →
        (stream.roll chance).2 = stream := by
      intro chance hnot
      apply stream.roll_of_settled
      rw [← or_assoc, ← Resolver.isHopeless_eq_true_iff]
      exact (Resolver.chance_cases chance).imp_right fun h => h.resolve_left hnot
    refine ⟨(hsettled hlow).trans (hsettled hhigh).symm, fun hsuccess => ?_⟩
    -- Without a draw only a certain chance succeeds, and what lies above it is certain too.
    rcases Resolver.chance_cases low with hhopeless | hopen | hcertain
    · rw [stream.roll_of_isHopeless hhopeless] at hsuccess
      cases hsuccess
    · exact absurd hopen hlow
    · rw [stream.roll_of_hundred_le (Single.le_trans hcertain hle)]

end Keystream

/-! ## Resolutions -/

/-- Whatever the states of the scalers, no directive has a lower chance under the second one than
under the first one, which excludes `nan`, and both leave the outcome open for the same
directives. -/
structure Scaler.RaisedTo (low : Scaler τ) (high : Scaler τ') : Prop where
  le : ∀ (state : τ) (state' : τ') (directive : Directive),
    (low.adjust state directive.chance directive).1.le
      (high.adjust state' directive.chance directive).1 = true
  isOpen_iff : ∀ (state : τ) (state' : τ') (directive : Directive),
    (low.adjust state directive.chance directive).1.IsOpen ↔
      (high.adjust state' directive.chance directive).1.IsOpen

/-- A directive fares as before or better: only a failed one may have become a placed one. -/
inductive Fate.Improves {Handle : Type} : Fate Handle → Fate Handle → Prop where
  | same (fate : Fate Handle) : Improves fate fate
  | gained (handle : Handle) : Improves .failed (.placed handle)

theorem Report.placed_sublist {Handle : Type} {scene scene' : String}
    {low high : List (Directive × Fate Handle)}
    (h : List.Forall₂ (fun first second => first.2.Improves second.2) low high) :
    (ofFates scene low).placed.Sublist (ofFates scene' high).placed := by
  simp only [ofFates_eq]
  induction h with
  | nil => exact List.Sublist.slnil
  | @cons first second rest rest' hfate _ ih =>
      obtain ⟨directive, fate⟩ := first
      obtain ⟨directive', fate'⟩ := second
      cases hfate with
      | same =>
          cases fate with
          | placed handle => exact ih.cons_cons handle
          | _ => exact ih
      | gained handle => exact ih.cons handle

namespace Resolver

/-- Resolves scenes one after the other. -/
def resolveEach {σ τ ρ Asset Handle : Type} (resolver : Resolver σ τ ρ Asset Handle)
    (stage : Stage σ τ ρ) : List Activation → List (Report Handle) × Stage σ τ ρ
  | [] => ([], stage)
  | (store, scene) :: rest =>
      let (report, stage) := resolver.resolve store scene stage
      let (reports, stage) := resolver.resolveEach stage rest
      (report :: reports, stage)

variable {host : SceneHost σ Asset Handle} {asset? : String → Option Asset}
  {handleOf : Asset → Vector3 → Vector3 → Handle}

section OneDirective

variable (hsteady : host.Steady asset? handleOf) (scaler : Scaler τ) {itemPrefix : String}
  (nonGameScenes : List String) (stage : Stage σ τ Keystream) {directive : Directive}
include hsteady

/-- A steady host that lacks the asset leaves the stream as it is. -/
theorem resolveOne_seeded_missing
    (hmissing : asset? (itemName directive.prefab itemPrefix) = none) :
    let one := (seeded host scaler itemPrefix nonGameScenes).resolveOne stage directive
    one.1 = .missing (itemName directive.prefab itemPrefix) ∧ one.2.random = stage.random := by
  let resolver := seeded host scaler itemPrefix nonGameScenes
  obtain ⟨found, hfind⟩ : ∃ found, resolver.host.find stage.host (resolver.assetName directive) =
      (none, found) :=
    ⟨_, Prod.ext ((hsteady.find _ _).trans hmissing) rfl⟩
  dsimp only
  rw [(Fares.missing hfind).resolveOne_eq]
  exact ⟨rfl, rfl⟩

/-- A steady host that has the asset leaves all to the roll. The guard before the roll makes no
difference, since a hopeless chance fails without a draw. -/
theorem resolveOne_seeded_found {asset : Asset}
    (hfound : asset? (itemName directive.prefab itemPrefix) = some asset) :
    let one := (seeded host scaler itemPrefix nonGameScenes).resolveOne stage directive
    let roll := stage.random.roll (scaler.adjust stage.scaler directive.chance directive).1
    one.1 = (if roll.1 then .placed (handleOf asset directive.position directive.rotation)
      else .failed) ∧ one.2.random = roll.2 := by
  let resolver := seeded host scaler itemPrefix nonGameScenes
  obtain ⟨found, hfind⟩ : ∃ found, resolver.host.find stage.host (resolver.assetName directive) =
      (some asset, found) :=
    ⟨_, Prod.ext ((hsteady.find _ _).trans hfound) rfl⟩
  rcases hadjust : scaler.adjust stage.scaler directive.chance directive with ⟨chance, adjusted⟩
  have hadjusted : resolver.scaler.adjust stage.scaler directive.chance directive =
      (chance, adjusted) := hadjust
  dsimp only
  cases hhopeless : isHopeless chance with
  | true =>
      rw [(Fares.hopeless hfind hadjusted hhopeless).resolveOne_eq,
        stage.random.roll_of_isHopeless hhopeless]
      exact ⟨rfl, rfl⟩
  | false =>
      rcases hroll : stage.random.roll chance with ⟨_ | _, random⟩
      · rw [(Fares.lost hfind hadjusted hhopeless hroll).resolveOne_eq]
        exact ⟨rfl, rfl⟩
      · rw [(Fares.placed hfind hadjusted hhopeless hroll rfl).resolveOne_eq]
        exact ⟨congrArg Fate.placed (hsteady.place _ _ _ _), rfl⟩

end OneDirective

variable {low : Scaler τ} {high : Scaler τ'} {stage : Stage σ τ Keystream}
  {stage' : Stage σ τ' Keystream}

/-- Under raised chances a directive takes the same from the stream and fares no worse. -/
theorem resolveOne_improves (hsteady : host.Steady asset? handleOf) (hraised : low.RaisedTo high)
    (itemPrefix : String) (nonGameScenes : List String) (hrandom : stage.random = stage'.random)
    (directive : Directive) :
    let one := (seeded host low itemPrefix nonGameScenes).resolveOne stage directive
    let other := (seeded host high itemPrefix nonGameScenes).resolveOne stage' directive
    one.1.Improves other.1 ∧ one.2.random = other.2.random := by
  dsimp only
  cases hasset : asset? (itemName directive.prefab itemPrefix) with
  | none =>
      obtain ⟨hfate, hstream⟩ := resolveOne_seeded_missing hsteady low nonGameScenes stage hasset
      obtain ⟨hfate', hstream'⟩ :=
        resolveOne_seeded_missing hsteady high nonGameScenes stage' hasset
      rw [hfate, hfate', hstream, hstream']
      exact ⟨.same _, hrandom⟩
  | some asset =>
      obtain ⟨hfate, hstream⟩ := resolveOne_seeded_found hsteady low nonGameScenes stage hasset
      obtain ⟨hfate', hstream'⟩ :=
        resolveOne_seeded_found hsteady high nonGameScenes stage' hasset
      obtain ⟨hsame, hagain⟩ :=
        stage'.random.roll_mono (hraised.le stage.scaler stage'.scaler directive)
          (hraised.isOpen_iff stage.scaler stage'.scaler directive)
      rw [hfate, hfate', hstream, hstream', hrandom]
      refine ⟨?_, hsame⟩
      split
      next hsuccess =>
        rw [hagain hsuccess]
        exact .same _
      next =>
        split
        next => exact .gained _
        next => exact .same _

theorem fates_improve (hsteady : host.Steady asset? handleOf) (hraised : low.RaisedTo high)
    (itemPrefix : String) (nonGameScenes : List String) (hrandom : stage.random = stage'.random)
    (directives : List Directive) :
    let all := (seeded host low itemPrefix nonGameScenes).fates stage directives
    let others := (seeded host high itemPrefix nonGameScenes).fates stage' directives
    List.Forall₂ (fun first second => first.2.Improves second.2) all.1 others.1 ∧
      all.2.random = others.2.random := by
  induction directives generalizing stage stage' with
  | nil => exact ⟨.nil, hrandom⟩
  | cons directive rest ih =>
      obtain ⟨hfate, hmiddle⟩ :=
        resolveOne_improves hsteady hraised itemPrefix nonGameScenes hrandom directive
      obtain ⟨hfates, hend⟩ := ih hmiddle
      exact ⟨.cons hfate hfates, hend⟩

theorem resolve_improves (hsteady : host.Steady asset? handleOf) (hraised : low.RaisedTo high)
    (itemPrefix : String) (nonGameScenes : List String) (hrandom : stage.random = stage'.random)
    (store : SpawnStore) (scene : String) :
    let one := (seeded host low itemPrefix nonGameScenes).resolve store scene stage
    let other := (seeded host high itemPrefix nonGameScenes).resolve store scene stage'
    one.2.random = other.2.random ∧ one.1.placed.Sublist other.1.placed := by
  obtain ⟨hfates, hend⟩ := fates_improve hsteady hraised itemPrefix nonGameScenes hrandom
    (store.directives (sceneKey scene))
  simp only [resolve_eq_ofFates]
  exact ⟨hend, Report.placed_sublist hfates⟩

/-- Raised chances keep every spawn of a seeded run. If the second scaler gives no directive a lower
chance than the first one, and both leave the outcome open for the same directives, then resolving a
scene from one position of the stream leaves the stream at one position under both, and the handles
placed under the first scaler are some of those placed under the second one, in the same order. The
same holds, resolution by resolution, for any sequence of resolutions. -/
theorem raised_chances_keep_spawns (hsteady : host.Steady asset? handleOf)
    (hraised : low.RaisedTo high) (itemPrefix : String) (nonGameScenes : List String)
    (hrandom : stage.random = stage'.random) :
    let lower := seeded host low itemPrefix nonGameScenes
    let higher := seeded host high itemPrefix nonGameScenes
    (∀ store scene,
      let one := lower.resolve store scene stage
      let other := higher.resolve store scene stage'
      one.2.random = other.2.random ∧ one.1.placed.Sublist other.1.placed) ∧
    ∀ activations,
      let run := lower.resolveEach stage activations
      let other := higher.resolveEach stage' activations
      run.2.random = other.2.random ∧
        List.Forall₂ (fun first second => first.placed.Sublist second.placed) run.1 other.1 := by
  refine ⟨resolve_improves hsteady hraised itemPrefix nonGameScenes hrandom, ?_⟩
  intro activations
  induction activations generalizing stage stage' with
  | nil => exact ⟨hrandom, .nil⟩
  | cons activation rest ih =>
      obtain ⟨hmiddle, hplaced⟩ := resolve_improves hsteady hraised itemPrefix nonGameScenes hrandom
        activation.1 activation.2
      obtain ⟨hend, hrest⟩ := ih hmiddle
      exact ⟨hend, .cons hplaced hrest⟩

end Resolver

/-- Ropes are rare and nothing else comes. -/
def harsh : Scaler Unit :=
  .ofScaling fun _ directive => if directive.prefab = "rope" then .ofNat 10 else .zero

/-- Ropes come more often and everything else comes for certain. -/
def mild : Scaler Unit :=
  .ofScaling fun _ directive => if directive.prefab = "rope" then .ofNat 60 else .ofNat 200

theorem Resolver.raised_chances_keep_spawns_attic :
    let store := atticStore [rope, ghost, lamp, rope]
    let activations := [(store, "Attic"), (store, "attic")]
    let run := (seeded attic harsh "GEAR_" []).resolveEach ⟨[], (), Keystream.ofSeed 3⟩ activations
    let other := (seeded attic mild "GEAR_" []).resolveEach ⟨["GEAR_key"], (), Keystream.ofSeed 3⟩
      activations
    harsh.RaisedTo mild ∧ run.2.random = other.2.random ∧
      List.Forall₂ (fun first second => first.placed.Sublist second.placed) run.1 other.1 ∧
      run.1.map (fun report => report.placed.map (·.asset)) = [["GEAR_rope"], []] ∧
      other.1.map (fun report => report.placed.map (·.asset)) =
        [["GEAR_lamp", "GEAR_rope"], ["GEAR_lamp", "GEAR_rope"]] := by
  dsimp only
  have hraised : harsh.RaisedTo mild := by
    constructor
    · intro _ _ directive
      simp only [harsh, mild, Scaler.ofScaling]
      split
      · decide +kernel
      · decide +kernel
    · intro _ _ directive
      simp only [harsh, mild, Scaler.ofScaling]
      split
      · exact iff_of_true ⟨by decide +kernel, by decide +kernel⟩
          ⟨by decide +kernel, by decide +kernel⟩
      · exact iff_of_false (fun h => absurd h.1 (by decide +kernel))
          (fun h => absurd h.2 (by decide +kernel))
  obtain ⟨hstream, hplaced⟩ := (raised_chances_keep_spawns steady_attic hraised "GEAR_" []
    (show (⟨[], (), Keystream.ofSeed 3⟩ : Stage (List String) Unit Keystream).random =
      (⟨["GEAR_key"], (), Keystream.ofSeed 3⟩ : Stage (List String) Unit Keystream).random
      from rfl)).2
    [(atticStore [rope, ghost, lamp, rope], "Attic"),
      (atticStore [rope, ghost, lamp, rope], "attic")]
  exact ⟨hraised, hstream, hplaced, by decide +kernel, by decide +kernel⟩

end LootSpawn
