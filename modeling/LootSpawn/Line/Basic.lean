import LootSpawn.Content

/-!
# Lines of a spawn file

A line that is neither blank nor a comment has one of five shapes. Scenes, tags and loot tables set
the context for what follows, and spawns and loot entries belong to the context before them. A line
without a shape, a malformed number and a missing context are the faults.
-/

namespace LootSpawn

open Number

/-- What a line says, without the context of the lines before it. -/
inductive Line where
  | scene (name : String)
  | tag (name : String)
  | spawn (prefab : String) (position rotation : Vector3) (chance : Single)
  | lootTable (name : String)
  | lootEntry (entry : LootEntry)
  deriving DecidableEq

/-- The word for a line's shape in logs. -/
def Line.kind : Line → String
  | .scene _ => "scene"
  | .tag _ => "tag"
  | .spawn .. => "spawn"
  | .lootTable _ => "loottable"
  | .lootEntry _ => "loot entry"

/-- Why a line cannot be accepted. -/
inductive LineFault where
  | unrecognized
  | missingScene
  | missingLootTable
  | invalidNumber (token : String)
  | vectorArity (count : Nat)
  deriving DecidableEq, Repr

def LineFault.message : LineFault → String
  | .unrecognized => "unrecognized line"
  | .missingScene =>
      "no scene defined before this line. Did you forget a 'scene = <SceneName>'?"
  | .missingLootTable =>
      "no loottable defined before this line. Did you forget a 'loottable = <LootTableName>'?"
  | .invalidNumber token => s!"could not parse '{token}' as a numeric value"
  | .vectorArity count => s!"a vector requires 3 components, but found {count}"

end LootSpawn
