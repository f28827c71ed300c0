import LootSpawn.Proofs.Session.World
import LootSpawn.Proofs.Source.Governing
import LootSpawn.Proofs.Store.SpawnContents

/-!
# What a run records

Content reaches the stores of a session through accepted sources and single additions. Nothing else
adds to them, and nothing takes from them: a source that is at fault, a merge, a fresh load and the
activation of a scene leave the contents as they are. After a run the stores therefore hold the logs
of its events, one after the other.
-/

namespace LootSpawn

variable {Slot σ τ ρ Asset Handle : Type}

namespace Event

/-- The spawns that an event records, each with its scene. -/
def spawnLog : Event Slot σ τ ρ Asset Handle → List (String × Directive)
  | .load text =>
      match Source.ofText text.content with
      | .ok source => source.spawns.map Numbered.value
      | .error _ => []
  | .addSpawn scene directive => [(scene, directive)]
  | _ => []

/-- The loot entries that an event records, each with the name of its table. -/
def lootLog : Event Slot σ τ ρ Asset Handle → List (String × LootEntry)
  | .load text =>
      match Source.ofText text.content with
      | .ok source => source.lootEntries.map Numbered.value
      | .error _ => []
  | .addLoot table entry => [(table, entry)]
  | _ => []

def isAddSpawn : Event Slot σ τ ρ Asset Handle → Bool
  | .addSpawn .. => true
  | _ => false

def isAddLoot : Event Slot σ τ ρ Asset Handle → Bool
  | .addLoot .. => true
  | _ => false

/-- The host acts, by itself or on the session. -/
def isHost : Event Slot σ τ ρ Asset Handle → Prop
  | .load _ => False
  | .addSpawn .. => False
  | .addLoot .. => False
  | _ => True

end Event

/-- What was loaded according to a result; a load that fails loads nothing. -/
def LoadCount.ofResult : Except LoadError LoadCount → LoadCount
  | .ok count => count
  | .error _ => {}

namespace LootStore

theorem clearProcessed_recordAll (store : LootStore) (log : List (String × LootEntry)) :
    (store.recordAll log).clearProcessed = store.clearProcessed.recordAll log := by
  induction log generalizing store with
  | nil => rfl
  | cons loot log ih => exact ih (store.record loot.1 loot.2)

/-- A merge only sets a mark. -/
theorem clearProcessed_merge (store : LootStore) (table : HostTable) :
    (store.merge table).2.1.clearProcessed = store.clearProcessed := by
  rw [merge]
  split
  next => rfl
  next =>
    split
    next => rfl
    next => rfl

end LootStore

namespace Session

theorem loadText_of_ok (session : Session) {text : NamedText} {source : Source}
    (h : Source.ofText text.content = .ok source) :
    session.loadText text = (session.commit source, .ok source.loadCount) := by
  rw [loadText, h]

theorem loadText_of_error (session : Session) {text : NamedText} {error : ReadError}
    (h : Source.ofText text.content = .error error) :
    session.loadText text = (session, .error (.read text.origin error)) := by
  rw [loadText, h]

/-- A load that fails changes nothing. -/
theorem session_of_loadText_error (session : Session) {text : NamedText} {error : LoadError}
    (h : (session.loadText text).2 = .error error) : (session.loadText text).1 = session := by
  cases hread : Source.ofText text.content with
  | error => rw [session.loadText_of_error hread]
  | ok source =>
      rw [session.loadText_of_ok hread] at h
      cases h

theorem spawns_populateAll (session : Session) (tables : List (Option HostTable)) :
    (session.populateAll tables).2.1.spawns = session.spawns := by
  induction tables generalizing session with
  | nil => rfl
  | cons table rest ih =>
      cases table with
      | none => exact ih session
      | some table => exact ih (session.populate table).2.1

theorem clearProcessed_populateAll (session : Session) (tables : List (Option HostTable)) :
    (session.populateAll tables).2.1.loot.clearProcessed = session.loot.clearProcessed := by
  induction tables generalizing session with
  | nil => rfl
  | cons table rest ih =>
      cases table with
      | none => exact ih session
      | some table =>
          exact (ih (session.populate table).2.1).trans (session.loot.clearProcessed_merge table)

end Session

namespace World

/-- What an event returns if it is a load. -/
def loadResult (world : World Slot σ τ ρ Handle) :
    Event Slot σ τ ρ Asset Handle → List (Except LoadError LoadCount)
  | .load text => [(world.session.loadText text).2]
  | _ => []

/-- The loads count the spawns that they record. -/
theorem length_spawnLog (world : World Slot σ τ ρ Handle) (event : Event Slot σ τ ρ Asset Handle) :
    event.spawnLog.length =
      ((world.loadResult event).map fun result => (LoadCount.ofResult result).spawns).sum +
        [event].countP Event.isAddSpawn := by
  cases event with
  | load text =>
      rw [Event.spawnLog, loadResult]
      cases hread : Source.ofText text.content with
      | error => rw [world.session.loadText_of_error hread]; rfl
      | ok source =>
          rw [world.session.loadText_of_ok hread]
          exact List.length_map _
  | _ => rfl

/-- The loads count the loot entries that they record. -/
theorem length_lootLog (world : World Slot σ τ ρ Handle) (event : Event Slot σ τ ρ Asset Handle) :
    event.lootLog.length =
      ((world.loadResult event).map fun result => (LoadCount.ofResult result).lootEntries).sum +
        [event].countP Event.isAddLoot := by
  cases event with
  | load text =>
      rw [Event.lootLog, loadResult]
      cases hread : Source.ofText text.content with
      | error => rw [world.session.loadText_of_error hread]; rfl
      | ok source =>
          rw [world.session.loadText_of_ok hread]
          exact List.length_map _
  | _ => rfl

variable [DecidableEq Slot]

theorem spawns_step_of_isHost (world : World Slot σ τ ρ Handle)
    {event : Event Slot σ τ ρ Asset Handle} (hhost : event.isHost) :
    (world.step event).session.spawns = world.session.spawns := by
  cases event with
  | load => exact hhost.elim
  | addSpawn => exact hhost.elim
  | addLoot => exact hhost.elim
  | populate slot =>
      cases slot with
      | none => rfl
      | some slot => rfl
  | container slots => exact world.session.spawns_populateAll _
  | _ => rfl

/-- Every event records its log of spawns. -/
theorem spawns_step (world : World Slot σ τ ρ Handle) (event : Event Slot σ τ ρ Asset Handle) :
    (world.step event).session.spawns = world.session.spawns.recordAll event.spawnLog := by
  cases event with
  | load text =>
      rw [step, Event.spawnLog]
      cases hread : Source.ofText text.content with
      | error => rw [world.session.loadText_of_error hread]; rfl
      | ok source =>
          rw [world.session.loadText_of_ok hread]
          exact SpawnStore.load_eq_recordAll _ source
  | addSpawn scene directive => rfl
  | addLoot table entry => rfl
  | _ => exact world.spawns_step_of_isHost trivial

theorem spawns_run (world : World Slot σ τ ρ Handle)
    (events : List (Event Slot σ τ ρ Asset Handle)) :
    (world.run events).session.spawns =
      world.session.spawns.recordAll (events.flatMap Event.spawnLog) := by
  induction events generalizing world with
  | nil => rfl
  | cons event rest ih =>
      rw [List.flatMap_cons, SpawnStore.recordAll_append, ← spawns_step]
      exact ih (world.step event)

/-- Every event records its log of loot entries. Marks aside, it does nothing else to the store. -/
theorem loot_step (world : World Slot σ τ ρ Handle) (event : Event Slot σ τ ρ Asset Handle) :
    (world.step event).session.loot.clearProcessed =
      world.session.loot.clearProcessed.recordAll event.lootLog := by
  cases event with
  | load text =>
      rw [step, Event.lootLog]
      cases hread : Source.ofText text.content with
      | error => rw [world.session.loadText_of_error hread]; rfl
      | ok source =>
          rw [world.session.loadText_of_ok hread, ← LootStore.clearProcessed_recordAll,
            ← LootStore.load_eq_recordAll]
          rfl
  | addLoot table entry => rfl
  | populate slot =>
      cases slot with
      | none => rfl
      | some slot => exact world.session.loot.clearProcessed_merge _
  | container slots => exact world.session.clearProcessed_populateAll _
  | _ => rfl

/-- The host sets and clears marks and leaves the contents alone. -/
theorem loot_step_of_isHost (world : World Slot σ τ ρ Handle)
    {event : Event Slot σ τ ρ Asset Handle} (hhost : event.isHost) :
    (world.step event).session.loot.clearProcessed = world.session.loot.clearProcessed := by
  rw [loot_step]
  cases event with
  | load => exact hhost.elim
  | addSpawn => exact hhost.elim
  | addLoot => exact hhost.elim
  | _ => rfl

theorem loot_run (world : World Slot σ τ ρ Handle) (events : List (Event Slot σ τ ρ Asset Handle)) :
    (world.run events).session.loot.clearProcessed =
      world.session.loot.clearProcessed.recordAll (events.flatMap Event.lootLog) := by
  induction events generalizing world with
  | nil => rfl
  | cons event rest ih =>
      rw [List.flatMap_cons, LootStore.recordAll_append, ← loot_step]
      exact ih (world.step event)

/-- What the loads of a run return, in order. -/
def loadResults (world : World Slot σ τ ρ Handle) :
    List (Event Slot σ τ ρ Asset Handle) → List (Except LoadError LoadCount)
  | [] => []
  | event :: rest => world.loadResult event ++ (world.step event).loadResults rest

/-- If the loads and the single additions count what every event logs, they count what a run
logs. -/
theorem length_flatMap_log {α : Type} {log : Event Slot σ τ ρ Asset Handle → List α}
    {counted : LoadCount → Nat} {isSingle : Event Slot σ τ ρ Asset Handle → Bool}
    (hlog : ∀ (world : World Slot σ τ ρ Handle) event, (log event).length =
      ((world.loadResult event).map fun result => counted (LoadCount.ofResult result)).sum +
        [event].countP isSingle)
    (world : World Slot σ τ ρ Handle) (events : List (Event Slot σ τ ρ Asset Handle)) :
    (events.flatMap log).length =
      ((world.loadResults events).map fun result => counted (LoadCount.ofResult result)).sum +
        events.countP isSingle := by
  induction events generalizing world with
  | nil => rfl
  | cons event rest ih =>
      have hcount : (event :: rest).countP isSingle =
          [event].countP isSingle + rest.countP isSingle := by
        rw [← List.countP_append]
        rfl
      rw [List.flatMap_cons, List.length_append, hlog world, ih (world.step event), loadResults,
        List.map_append, List.sum_append, hcount]
      omega

theorem length_flatMap_spawnLog (world : World Slot σ τ ρ Handle)
    (events : List (Event Slot σ τ ρ Asset Handle)) :
    (events.flatMap Event.spawnLog).length =
      ((world.loadResults events).map fun result => (LoadCount.ofResult result).spawns).sum +
        events.countP Event.isAddSpawn :=
  length_flatMap_log length_spawnLog world events

theorem length_flatMap_lootLog (world : World Slot σ τ ρ Handle)
    (events : List (Event Slot σ τ ρ Asset Handle)) :
    (events.flatMap Event.lootLog).length =
      ((world.loadResults events).map fun result => (LoadCount.ofResult result).lootEntries).sum +
        events.countP Event.isAddLoot :=
  length_flatMap_log length_lootLog world events

/-- Loading a file or a directory is loading texts, one after the other and up to the first that
fails. -/
theorem loadTexts_eq_run (world : World Slot σ τ ρ Handle)
    (inputs : List (Except LoadError NamedText)) :
    ∃ texts : List NamedText, { world with session := (world.session.loadTexts inputs).1 } =
      world.run (texts.map (Event.load : NamedText → Event Slot σ τ ρ Asset Handle)) := by
  induction inputs generalizing world with
  | nil => exact ⟨[], rfl⟩
  | cons input rest ih =>
      cases input with
      | error error => exact ⟨[], rfl⟩
      | ok text =>
          rw [Session.loadTexts]
          cases hload : world.session.loadText text with
          | mk session result =>
              have hstep : world.step (.load text : Event Slot σ τ ρ Asset Handle) =
                  { world with session } := by
                rw [step, hload]
              cases result with
              | error error => exact ⟨[text], hstep.symm⟩
              | ok count =>
                  obtain ⟨texts, htexts⟩ := ih { world with session }
                  refine ⟨text :: texts, ?_⟩
                  rw [List.map_cons, run, List.foldl_cons, hstep]
                  exact htexts

/-- After any run from the start the spawn store holds the spawns of the accepted sources and the
single spawns, in the order of the events and, for each source, in line order. It counts what the
loads and the single additions count, and neither a load that fails nor the host changes it. -/
theorem spawn_log_run (config : Config) (tables : Slot → HostTable) (stage : Stage σ τ ρ)
    (events : List (Event Slot σ τ ρ Asset Handle)) :
    let start : World Slot σ τ ρ Handle := World.start config tables stage
    let world := start.run events
    world.session.spawns.Holds (events.flatMap Event.spawnLog) ∧
      (∀ text source, Source.ofText text = .ok source →
        source.spawns.Pairwise fun first second => first.line < second.line) ∧
      world.session.spawns.size =
        ((start.loadResults events).map fun result => (LoadCount.ofResult result).spawns).sum +
          events.countP Event.isAddSpawn ∧
      (∀ text error, (world.session.loadText text).2 = .error error →
        (world.session.loadText text).1 = world.session) ∧
      ∀ event : Event Slot σ τ ρ Asset Handle, event.isHost →
        (world.step event).session.spawns = world.session.spawns := by
  intro start world
  have hholds : world.session.spawns.Holds (events.flatMap Event.spawnLog) := by
    rw [show world.session.spawns = _ from start.spawns_run events]
    exact SpawnStore.holds_recordAll _
  refine ⟨hholds, ?_, ?_, ?_, ?_⟩
  · intro text source hread
    exact Source.collect_increasing hread Record.spawn?
  · rw [hholds.size, start.length_flatMap_spawnLog]
  · intro text error herror
    exact world.session.session_of_loadText_error herror
  · intro event hhost
    exact world.spawns_step_of_isHost hhost

def campText : NamedText := ⟨"camp.txt", "scene = Camp\nitem = rope\nitem = flare"⟩

/-- A text that is at fault after a spawn. -/
def brokenLake : NamedText := ⟨"lake.txt", "scene = Lake\nitem = raft\nitem = oar c = high"⟩

/-- A run with two spellings of a scene, a fresh load, and a load that fails. -/
def campRun : List (Event Unit Unit Unit Unit Unit Unit) :=
  [.load campText, .freshLoad, .addSpawn "CAMP" { prefab := "lamp" }, .load brokenLake]

def campStart : World Unit Unit Unit Unit Unit :=
  World.start {} (fun _ => ⟨1, "Cache", []⟩) ⟨(), (), ()⟩

theorem spawn_log_run_camp :
    let world := campStart.run campRun
    (world.session.spawns.directives "camp").map Directive.prefab = ["rope", "flare", "lamp"] ∧
      (∃ source, Source.ofText campText.content = .ok source ∧
        source.spawns.Pairwise fun first second => first.line < second.line) ∧
      world.session.spawns.size = 3 ∧
      (world.session.loadText brokenLake).1 = world.session ∧
      (world.step (.populate (some ()) : Event Unit Unit Unit Unit Unit Unit)).session.spawns =
        world.session.spawns := by
  intro world
  obtain ⟨hholds, hlines, -, hfailed, hhost⟩ :=
    spawn_log_run {} (fun _ => ⟨1, "Cache", []⟩) ⟨(), (), ()⟩ campRun
  have hcamp : Source.ofText campText.content =
      .ok ⟨(Reading.ofLines (Source.linesOfText campText.content)).records⟩ := by
    decide +kernel
  have hlake : Source.ofText brokenLake.content =
      .error ⟨.invalidNumber "high", 3, "item = oar c = high"⟩ := by
    decide +kernel
  refine ⟨?_, ⟨_, hcamp, hlines _ _ hcamp⟩, ?_, ?_, ?_⟩
  · rw [show world.session.spawns.directives "camp" = _ from hholds.directives "camp"]
    decide +kernel
  · rw [show world.session.spawns.size = _ from hholds.size]
    decide +kernel
  · apply hfailed brokenLake
    rw [Session.loadText_of_error _ hlake]
  · exact hhost _ trivial

/-- After any run from the start the loot store holds the loot entries of the accepted sources and
the single entries, in the order of the events and, for each source, in line order. It counts what
the loads and the single additions count. A load that fails changes nothing, and the host, when it
hands out tables, loads anew or activates scenes, changes nothing but marks. -/
theorem loot_log_run (config : Config) (tables : Slot → HostTable) (stage : Stage σ τ ρ)
    (events : List (Event Slot σ τ ρ Asset Handle)) :
    let start : World Slot σ τ ρ Handle := World.start config tables stage
    let world := start.run events
    world.session.loot.Holds config.itemPrefix (events.flatMap Event.lootLog) ∧
      (∀ text source, Source.ofText text = .ok source →
        source.lootEntries.Pairwise fun first second => first.line < second.line) ∧
      (world.session.loot.keys.map fun key => (world.session.loot.entries key).length).sum =
        ((start.loadResults events).map fun result => (LoadCount.ofResult result).lootEntries).sum +
          events.countP Event.isAddLoot ∧
      (∀ text error, (world.session.loadText text).2 = .error error →
        (world.session.loadText text).1 = world.session) ∧
      ∀ event : Event Slot σ τ ρ Asset Handle, event.isHost →
        (world.step event).session.loot.clearProcessed = world.session.loot.clearProcessed := by
  intro start world
  have hstore : world.session.loot.clearProcessed =
      ({ itemPrefix := config.itemPrefix } : LootStore).recordAll (events.flatMap Event.lootLog) :=
    start.loot_run events
  have hholds : world.session.loot.Holds config.itemPrefix (events.flatMap Event.lootLog) := by
    apply LootStore.holds_of_tables
    · exact (congrArg LootStore.itemPrefix hstore).trans (LootStore.itemPrefix_recordAll _ _)
    · exact (congrArg LootStore.tables hstore).trans (LootStore.tables_recordAll_eq_grouped _ _)
  refine ⟨hholds, ?_, ?_, ?_, ?_⟩
  · intro text source hread
    exact Source.collect_increasing hread Record.loot?
  · rw [hholds.size, start.length_flatMap_lootLog]
  · intro text error herror
    exact world.session.session_of_loadText_error herror
  · intro event hhost
    exact world.loot_step_of_isHost hhost

def cargoText : NamedText :=
  ⟨"cargo.txt", "loottable = CargoDeck\nitem = rope w = 3\nitem = GEAR_lamp w = 2"⟩

/-- A run with two spellings of a table, a merge, a fresh load, and a load that fails. -/
def cargoRun : List (Event Unit Unit Unit Unit Unit Unit) :=
  [.load cargoText, .populate (some ()), .addLoot "LOOTCARGODECK" ⟨"gear_flare", 5⟩, .freshLoad,
    .load brokenLake]

def cargoStart : World Unit Unit Unit Unit Unit :=
  World.start {} (fun _ => ⟨4, "LootCargoDeck", []⟩) ⟨(), (), ()⟩

theorem loot_log_run_cargo :
    let world := cargoStart.run cargoRun
    world.session.loot.entries "lootcargodeck" =
        [⟨"GEAR_rope", 3⟩, ⟨"GEAR_lamp", 2⟩, ⟨"GEAR_flare", 5⟩] ∧
      (∃ source, Source.ofText cargoText.content = .ok source ∧
        source.lootEntries.Pairwise fun first second => first.line < second.line) ∧
      (world.session.loot.keys.map fun key => (world.session.loot.entries key).length).sum = 3 ∧
      (world.session.loadText brokenLake).1 = world.session ∧
      (world.step
          (.populate (some ()) : Event Unit Unit Unit Unit Unit Unit)).session.loot.clearProcessed =
        world.session.loot.clearProcessed := by
  dsimp only [cargoStart]
  obtain ⟨hholds, hlines, -, hfailed, hhost⟩ :=
    loot_log_run {} (fun _ => ⟨4, "LootCargoDeck", []⟩) ⟨(), (), ()⟩ cargoRun
  have hcargo : Source.ofText cargoText.content =
      .ok ⟨(Reading.ofLines (Source.linesOfText cargoText.content)).records⟩ := by
    decide +kernel
  have hlake : Source.ofText brokenLake.content =
      .error ⟨.invalidNumber "high", 3, "item = oar c = high"⟩ := by
    decide +kernel
  refine ⟨?_, ⟨_, hcargo, hlines _ _ hcargo⟩, ?_, ?_, ?_⟩
  · rw [hholds.entries]
    decide +kernel
  · exact hholds.size.trans (by decide +kernel)
  · apply hfailed brokenLake
    rw [Session.loadText_of_error _ hlake]
  · exact hhost _ trivial

end World

end LootSpawn
