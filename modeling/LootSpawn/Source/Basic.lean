import LootSpawn.Line.Basic

/-!
# Accepted and rejected sources

An accepted source is the list of its numbered records in line order. Spawns, loot entries and
declarations are views of that list. A rejected source is described by the fault of one line,
together with the number and the verbatim text of that line.
-/

namespace LootSpawn

/-- What an accepted line contributes, with the scene, table and tag it is governed by. -/
inductive Record where
  | scene (name : String)
  | tag (name : String)
  | spawn (scene : String) (directive : Directive)
  | lootTable (name : String)
  | loot (table : String) (entry : LootEntry)
  deriving DecidableEq

namespace Record

/-- What the line of a record says. -/
def line : Record → Line
  | .scene name => .scene name
  | .tag name => .tag name
  | .spawn _ directive =>
      .spawn directive.prefab directive.position directive.rotation directive.chance
  | .lootTable name => .lootTable name
  | .loot _ entry => .lootEntry entry

def spawn? : Record → Option (String × Directive)
  | .spawn place directive => some (place, directive)
  | _ => none

def loot? : Record → Option (String × LootEntry)
  | .loot place entry => some (place, entry)
  | _ => none

def scene? : Record → Option String
  | .scene name => some name
  | _ => none

def lootTable? : Record → Option String
  | .lootTable name => some name
  | _ => none

end Record

/-- A value with the number of its line, counted from one. -/
structure Numbered (α : Type) where
  line : Nat
  value : α
  deriving DecidableEq

/-- An accepted source. -/
structure Source where
  records : List (Numbered Record) := []
  deriving DecidableEq

namespace Source

/-- The records for which `view` yields a value, in line order. -/
def collect {α : Type} (source : Source) (view : Record → Option α) : List (Numbered α) :=
  source.records.filterMap fun record => (view record.value).map (⟨record.line, ·⟩)

/-- The spawns, each with its scene. -/
def spawns (source : Source) : List (Numbered (String × Directive)) :=
  source.collect Record.spawn?

/-- The loot entries, each with the name of its table. -/
def lootEntries (source : Source) : List (Numbered (String × LootEntry)) :=
  source.collect Record.loot?

/-- The declared scenes. -/
def scenes (source : Source) : List (Numbered String) := source.collect Record.scene?

/-- The declared loot tables. -/
def lootTables (source : Source) : List (Numbered String) := source.collect Record.lootTable?

end Source

/-- The line that a source was rejected for. -/
structure ReadError where
  fault : LineFault
  lineNumber : Nat
  line : String
  deriving DecidableEq, Repr

def ReadError.message (error : ReadError) : String :=
  s!"{error.fault.message} (line {error.lineNumber}: '{error.line}')"

end LootSpawn
