import LootSpawn.Number.Single

/-!
# Spawns and loot

What spawn files declare: items placed in scenes with a chance to appear, and weighted entries for
loot tables.
-/

namespace LootSpawn

open Number

/-- A position, or Euler angles in degrees. -/
structure Vector3 where
  x : Single
  y : Single
  z : Single
  deriving DecidableEq

def Vector3.zero : Vector3 := ⟨.zero, .zero, .zero⟩

/-- The tag of spawns that are declared before any tag. -/
def defaultTag : String := "none"

/-- The chance of a spawn that states none: certain. -/
def defaultChance : Single := .hundred

/-- An item to place in a scene. The name is kept as written, and the item prefix is applied when
the host is asked for the asset. -/
structure Directive where
  prefab : String
  position : Vector3 := .zero
  rotation : Vector3 := .zero
  chance : Single := defaultChance
  tag : String := defaultTag
  deriving DecidableEq

/-- An item that may be drawn from a loot table. -/
structure LootEntry where
  prefab : String
  weight : UInt32
  deriving DecidableEq

end LootSpawn
