import LootSpawn.Name
import LootSpawn.Number.Shortest
import LootSpawn.Source.Basic

/-!
# Linting

Beyond the faults for which a source is rejected, a linter finds content that has no effect or an
odd one. Loot entries are compared across all sources, since all of them feed one store.
-/

namespace LootSpawn

open Number Text

inductive Severity where
  | error
  | warning
  deriving DecidableEq, Repr

def Severity.label : Severity → String
  | .error => "ERROR"
  | .warning => "WARNING"

/-- What is wrong with a line. -/
inductive Finding where
  | rejected (fault : LineFault)
  | neverSpawns (prefab : String)
  | chanceOutside (prefab : String) (chance : Single)
  | neverDrawn (prefab : String)
  | duplicate (prefab table origin : String) (line : Nat)
  | emptyScene (name : String)
  | emptyLootTable (name : String)
  deriving DecidableEq

namespace Finding

/-- Only a rejected source is an error. -/
def severity : Finding → Severity
  | .rejected _ => .error
  | _ => .warning

def message : Finding → String
  | .rejected fault => fault.message
  | .neverSpawns prefab => s!"'{prefab}' has a spawn chance of 0 and can never spawn"
  | .chanceOutside prefab chance =>
      s!"'{prefab}' has a spawn chance of {chance.text} outside 0-100"
  | .neverDrawn prefab => s!"'{prefab}' has weight 0 and will never be drawn"
  | .duplicate prefab table origin line =>
      s!"'{prefab}' is already in loot table '{table}' ({origin}:{line}); this entry is ignored"
  | .emptyScene name => s!"scene '{name}' is declared without any items"
  | .emptyLootTable name => s!"loot table '{name}' is declared without any items"

end Finding

/-- A finding at a line of a source. -/
structure Issue where
  origin : String
  line : Nat
  finding : Finding
  deriving DecidableEq

def Issue.severity (issue : Issue) : Severity := issue.finding.severity

def Issue.message (issue : Issue) : String :=
  s!"{issue.severity.label}: {issue.origin}:{issue.line}: {issue.finding.message}"

/-- Where an item of a loot table was seen first. -/
structure Sighting where
  table : String
  item : String
  origin : String
  line : Nat
  deriving DecidableEq

/-- The findings so far, and the loot entries to compare further ones with. -/
structure Linter where
  itemPrefix : String
  sightings : List Sighting := []
  issues : List Issue := []

namespace Linter

/-- The finding about a chance: zero of either sign never succeeds, and only chances from 0 to 100
are percentages. -/
def chanceFinding? (directive : Directive) : Option Finding :=
  let chance := directive.chance
  if chance.isZero then some (.neverSpawns directive.prefab)
  else if Single.zero.le chance && chance.le .hundred then none
  else some (.chanceOutside directive.prefab chance)

/-- The issues of the spawns of a source. -/
def spawnIssues (origin : String) (source : Source) : List Issue :=
  source.spawns.filterMap fun spawn =>
    (chanceFinding? spawn.value.2).map (⟨origin, spawn.line, ·⟩)

/-- Compares a loot entry with those seen before it. Two entries are the same if they are stored
under one key and their prefixed names are equal in lower case. -/
def checkLoot (origin : String) (linter : Linter)
    (loot : Numbered (String × LootEntry)) : Linter :=
  let (table, entry) := loot.value
  let key := lootTableKey table
  let item := lowerString (itemName entry.prefab linter.itemPrefix)
  let unweighted : List Issue :=
    if entry.weight = 0 then [⟨origin, loot.line, .neverDrawn entry.prefab⟩] else []
  match linter.sightings.find? fun seen => seen.table == key && seen.item == item with
  | some seen =>
      let repeated := Finding.duplicate entry.prefab table seen.origin seen.line
      { linter with issues := linter.issues ++ unweighted ++ [⟨origin, loot.line, repeated⟩] }
  | none =>
      { linter with
        sightings := linter.sightings ++ [⟨key, item, origin, loot.line⟩]
        issues := linter.issues ++ unweighted }

/-- The record declares a scene or a loot table. -/
def emptyFinding? : Record → Option Finding
  | .scene name => some (.emptyScene name)
  | .lootTable name => some (.emptyLootTable name)
  | _ => none

/-- The record places an item in a scene or a loot table. -/
def isItem : Record → Bool
  | .spawn .. | .loot .. => true
  | _ => false

/-- Among records, an item comes before the next declaration. -/
def startsWithItem : List (Numbered Record) → Bool
  | [] => false
  | record :: rest =>
      isItem record.value || ((emptyFinding? record.value).isNone && startsWithItem rest)

/-- The declarations that no item follows before the next declaration, in line order. -/
def emptyIssues (origin : String) : List (Numbered Record) → List Issue
  | [] => []
  | record :: rest =>
      match emptyFinding? record.value with
      | some finding =>
          if startsWithItem rest then emptyIssues origin rest
          else ⟨origin, record.line, finding⟩ :: emptyIssues origin rest
      | none => emptyIssues origin rest

/-- Adds the issues of an accepted source: those of its spawns, those of its loot entries, and its
declarations without items. -/
def check (linter : Linter) (origin : String) (source : Source) : Linter :=
  let linter := { linter with issues := linter.issues ++ spawnIssues origin source }
  let linter := source.lootEntries.foldl (checkLoot origin) linter
  { linter with issues := linter.issues ++ emptyIssues origin source.records }

/-- Adds the issue of a rejected source. -/
def reject (linter : Linter) (origin : String) (error : ReadError) : Linter :=
  { linter with issues := linter.issues ++ [⟨origin, error.lineNumber, .rejected error.fault⟩] }

/-- Adds the issues of a source that was read. -/
def add (linter : Linter) (origin : String) : Except ReadError Source → Linter
  | .ok source => linter.check origin source
  | .error error => linter.reject origin error

def errorCount (linter : Linter) : Nat := linter.issues.countP (·.severity == .error)

def warningCount (linter : Linter) : Nat := linter.issues.countP (·.severity == .warning)

/-- Every issue is an error or a warning. -/
theorem errorCount_add_warningCount (linter : Linter) :
    linter.errorCount + linter.warningCount = linter.issues.length := by
  simp only [errorCount, warningCount]
  induction linter.issues with
  | nil => rfl
  | cons issue rest ih =>
      cases h : issue.severity <;> simp [h] <;> omega

end Linter

end LootSpawn
