import LootSpawn.Proofs.Store.LootContents
import LootSpawn.Proofs.Store.NewEntries
import LootSpawn.Session.Basic
import Mathlib.Data.List.ReduceOption
import Mathlib.Logic.Function.Basic

/-!
# Sessions among host tables

A session lives beside the loot tables of its host, each in a slot of its own. Whatever reaches the
session is an event, and a run is a list of events. Every merge call of a run is recorded with the
store and the table as they were when it was made; filling a container makes one call after the
other.
-/

namespace LootSpawn

variable {Slot σ τ ρ Asset Handle : Type}

/-- A merge call: the table it is for, and the store and that table as the call finds them. -/
structure MergeCall (Slot : Type) where
  slot : Slot
  store : LootStore
  table : HostTable

namespace MergeCall

def outcome (call : MergeCall Slot) : MergeOutcome := (call.store.merge call.table).1

/-- The table as the call leaves it. -/
def after (call : MergeCall Slot) : HostTable := (call.store.merge call.table).2.2

def stored (call : MergeCall Slot) : List LootEntry :=
  call.store.entries (hostTableKey call.table.name)

end MergeCall

/-- Something that happens to a session or to the tables of its host. The tables of a container are
handed out together, so no table is among them twice. -/
inductive Event (Slot σ τ ρ Asset Handle : Type) where
  | load (text : NamedText)
  | addSpawn (scene : String) (directive : Directive)
  | addLoot (table : String) (entry : LootEntry)
  | freshLoad
  | activate (resolver : Resolver σ τ ρ Asset Handle) (scene : String)
  | populate (slot : Option Slot)
  | container (slots : List (Option Slot)) (distinct : slots.reduceOption.Nodup)
  | rewrite (slot : Slot) (table : HostTable)

/-- The host changes the table by itself. -/
def Event.rewrites (event : Event Slot σ τ ρ Asset Handle) (slot : Slot) : Prop :=
  match event with
  | .rewrite other _ => other = slot
  | _ => False

def Event.isQuiet : Event Slot σ τ ρ Asset Handle → Prop
  | .populate _ => False
  | .container .. => False
  | _ => True

/-- A session, the tables of its host, the states of its collaborators, and the reports that were
published. -/
structure World (Slot σ τ ρ Handle : Type) where
  session : Session
  tables : Slot → HostTable
  stage : Stage σ τ ρ
  published : List (Report Handle) := []

namespace World

variable [DecidableEq Slot]

def start (config : Config) (tables : Slot → HostTable) (stage : Stage σ τ ρ) :
    World Slot σ τ ρ Handle := { session := Session.start config, tables, stage }

/-- Puts a table that came back from a call into its slot. -/
def putBack (tables : Slot → HostTable) : Option Slot × Option HostTable → Slot → HostTable
  | (some slot, some table) => Function.update tables slot table
  | _ => tables

/-- Activates a scene; the listener keeps the reports. -/
def activate (world : World Slot σ τ ρ Handle) (resolver : Resolver σ τ ρ Asset Handle)
    (scene : String) : World Slot σ τ ρ Handle :=
  let (_, stage, published) := resolver.activate world.session.spawns
    (fun heard report => heard ++ [report]) scene world.stage world.published
  { world with stage, published }

/-- Hands a table, or none, to the session before the host draws from it. -/
def populate (world : World Slot σ τ ρ Handle) (slot : Option Slot) : World Slot σ τ ρ Handle :=
  let (_, session, table) := world.session.populate? (slot.map world.tables)
  { world with session, tables := putBack world.tables (slot, table) }

def fill (world : World Slot σ τ ρ Handle) (slots : List (Option Slot)) : World Slot σ τ ρ Handle :=
  let (_, session, tables) := world.session.populateAll (slots.map (·.map world.tables))
  { world with session, tables := (slots.zip tables).foldl putBack world.tables }

def step (world : World Slot σ τ ρ Handle) : Event Slot σ τ ρ Asset Handle → World Slot σ τ ρ Handle
  | .load text => { world with session := (world.session.loadText text).1 }
  | .addSpawn scene directive => { world with session := world.session.addSpawn scene directive }
  | .addLoot table entry => { world with session := world.session.addLoot table entry }
  | .freshLoad => { world with session := world.session.freshLoad }
  | .activate resolver scene => world.activate resolver scene
  | .populate slot => world.populate slot
  | .container slots _ => world.fill slots
  | .rewrite slot table => { world with tables := Function.update world.tables slot table }

def run (world : World Slot σ τ ρ Handle) (events : List (Event Slot σ τ ρ Asset Handle)) :
    World Slot σ τ ρ Handle := events.foldl step world

/-- The merge call that the next `populate` of the slot makes. -/
def call (world : World Slot σ τ ρ Handle) (slot : Slot) : MergeCall Slot :=
  ⟨slot, world.session.loot, world.tables slot⟩

/-- The calls for tables that are merged one after the other. -/
def callsFor (world : World Slot σ τ ρ Handle) : List (Option Slot) → List (MergeCall Slot)
  | [] => []
  | none :: rest => world.callsFor rest
  | some slot :: rest =>
      world.call slot :: (world.populate (some slot)).callsFor rest

def calls (world : World Slot σ τ ρ Handle) :
    Event Slot σ τ ρ Asset Handle → List (MergeCall Slot)
  | .populate slot => world.callsFor [slot]
  | .container slots _ => world.callsFor slots
  | _ => []

theorem calls_of_isQuiet (world : World Slot σ τ ρ Handle) {event : Event Slot σ τ ρ Asset Handle}
    (h : event.isQuiet) : world.calls event = [] := by
  cases event with
  | populate => exact h.elim
  | container => exact h.elim
  | _ => rfl

/-- The merge calls of a run, in order. -/
def history (world : World Slot σ τ ρ Handle) :
    List (Event Slot σ τ ρ Asset Handle) → List (MergeCall Slot)
  | [] => []
  | event :: rest => world.calls event ++ (world.step event).history rest

@[simp]
theorem populate_none (world : World Slot σ τ ρ Handle) : world.populate none = world := rfl

theorem populate_some (world : World Slot σ τ ρ Handle) (slot : Slot) :
    world.populate (some slot) =
      { world with
        session := { world.session with loot := ((world.call slot).store.merge
          (world.call slot).table).2.1 }
        tables := Function.update world.tables slot (world.call slot).after } := rfl

/-- The tables that are handed out beside a slot are not touched by a change to that slot. -/
theorem map_tables_update {slots : List (Option Slot)} {slot : Slot} (tables : Slot → HostTable)
    (table : HostTable) (hnot : slot ∉ slots.reduceOption) :
    slots.map (·.map (Function.update tables slot table)) = slots.map (·.map tables) := by
  apply List.map_congr_left
  intro other hother
  cases other with
  | none => rfl
  | some other =>
      have hne : other ≠ slot := by
        rintro rfl
        exact hnot (List.reduceOption_mem_iff.mpr hother)
      exact congrArg some (Function.update_of_ne hne table tables)

/-- A container is filled by merging its tables one after the other. -/
theorem fill_eq_foldl_populate (world : World Slot σ τ ρ Handle) {slots : List (Option Slot)}
    (hdistinct : slots.reduceOption.Nodup) :
    world.fill slots = slots.foldl populate world := by
  induction slots generalizing world with
  | nil => rfl
  | cons slot rest ih =>
      cases slot with
      | none =>
          rw [List.foldl_cons, populate_none, ← ih world hdistinct]
          rfl
      | some slot =>
          rw [List.reduceOption_cons_of_some, List.nodup_cons] at hdistinct
          have hrest := map_tables_update world.tables (world.call slot).after hdistinct.1
          rw [List.foldl_cons, ← ih _ hdistinct.2, populate_some]
          simp only [fill, hrest]
          rfl

/-- What is returned for a container are the outcomes of its merge calls. -/
theorem outcomes_populateAll (world : World Slot σ τ ρ Handle) {slots : List (Option Slot)}
    (hdistinct : slots.reduceOption.Nodup) :
    (world.session.populateAll (slots.map (·.map world.tables))).1 =
      (world.callsFor slots).map MergeCall.outcome := by
  induction slots generalizing world with
  | nil => rfl
  | cons slot rest ih =>
      cases slot with
      | none => exact ih world hdistinct
      | some slot =>
          rw [List.reduceOption_cons_of_some, List.nodup_cons] at hdistinct
          have hrest := map_tables_update world.tables (world.call slot).after hdistinct.1
          have houtcomes := ih (world.populate (some slot)) hdistinct.2
          rw [populate_some] at houtcomes
          simp only [hrest] at houtcomes
          exact congrArg ((world.call slot).outcome :: ·) houtcomes

/-- Loading a text records its loot entries, or changes nothing. -/
theorem loot_loadText (session : Session) (text : NamedText) :
    ∃ log, (session.loadText text).1.loot = session.loot.recordAll log := by
  rw [Session.loadText]
  split
  next source _ => exact ⟨_, LootStore.load_eq_recordAll session.loot source⟩
  next => exact ⟨[], rfl⟩

theorem entries_isPrefix_step (world : World Slot σ τ ρ Handle)
    {event : Event Slot σ τ ρ Asset Handle}
    (hquiet : event.isQuiet) (key : String) :
    world.session.loot.entries key <+: (world.step event).session.loot.entries key := by
  cases event with
  | load text =>
      obtain ⟨log, hlog⟩ := loot_loadText world.session text
      simp only [step, hlog, LootStore.entries_recordAll]
      exact List.prefix_append _ _
  | addLoot table entry =>
      simp only [step, Session.addLoot, LootStore.entries_record]
      split
      · exact List.prefix_append _ _
      · exact List.prefix_rfl
  | populate => exact hquiet.elim
  | container => exact hquiet.elim
  | _ => exact List.prefix_rfl

/-- Only a merge and the host itself change a table. -/
theorem tables_step_of_isQuiet (world : World Slot σ τ ρ Handle)
    {event : Event Slot σ τ ρ Asset Handle} {slot : Slot} (hquiet : event.isQuiet)
    (hown : ¬ event.rewrites slot) : (world.step event).tables slot = world.tables slot := by
  cases event with
  | rewrite other table => exact Function.update_of_ne (fun heq => hown heq.symm) table world.tables
  | populate => exact hquiet.elim
  | container => exact hquiet.elim
  | _ => rfl

/-- What holds of the calls so far and the world, and is kept by every event without a merge and by
every merge, holds after a run. -/
theorem run_invariant (holds : List (MergeCall Slot) → World Slot σ τ ρ Handle → Prop)
    {events : List (Event Slot σ τ ρ Asset Handle)}
    (hquiet : ∀ event ∈ events, event.isQuiet → ∀ past world,
      holds past world → holds past (world.step event))
    (hmerge : ∀ past world slot,
      holds past world → holds (past ++ [world.call slot]) (world.populate (some slot)))
    {past : List (MergeCall Slot)} {world : World Slot σ τ ρ Handle} (h : holds past world) :
    holds (past ++ world.history events) (world.run events) := by
  -- The tables of a container are merged like tables that are handed out one at a time.
  have hslots : ∀ (slots : List (Option Slot)) past world, holds past world →
      holds (past ++ world.callsFor slots) (slots.foldl populate world) := by
    intro slots
    induction slots with
    | nil =>
        intro past world h
        rw [callsFor, List.append_nil]
        exact h
    | cons slot rest ih =>
        intro past world h
        cases slot with
        | none => exact ih past world h
        | some slot =>
            rw [callsFor, List.append_cons]
            exact ih _ _ (hmerge past world slot h)
  induction events generalizing past world with
  | nil =>
      rw [history, List.append_nil]
      exact h
  | cons event rest ih =>
      rw [history, ← List.append_assoc]
      apply ih fun other hother => hquiet other (List.mem_cons_of_mem event hother)
      by_cases hevent : event.isQuiet
      · rw [calls_of_isQuiet world hevent, List.append_nil]
        exact hquiet event List.mem_cons_self hevent past world h
      · cases event with
        | populate slot => exact hslots [slot] past world h
        | container slots hdistinct =>
            rw [calls, step, fill_eq_foldl_populate world hdistinct]
            exact hslots slots past world h
        | _ => exact absurd trivial hevent

end World

end LootSpawn
