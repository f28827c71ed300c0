import LootSpawn.Name
import LootSpawn.Source.Basic
import Std.Data.ExtTreeMap

/-!
# The spawn store

Directives are kept per scene in the order in which they were recorded. Recording and looking up
both go through the key of the scene, so every spelling of a name meets the same list.
-/

namespace LootSpawn

/-- Directives by scene key. -/
structure SpawnStore where
  scenes : Std.ExtTreeMap String (List Directive) := ∅

namespace SpawnStore

/-- Adds a directive after those of its scene. -/
def record (store : SpawnStore) (scene : String) (directive : Directive) : SpawnStore :=
  ⟨store.scenes.alter (sceneKey scene) fun known => some (known.getD [] ++ [directive])⟩

/-- The directives of a scene, if its key is present. -/
def find? (store : SpawnStore) (scene : String) : Option (List Directive) :=
  store.scenes[sceneKey scene]?

/-- The directives of a scene; an unknown scene has none. -/
def directives (store : SpawnStore) (scene : String) : List Directive :=
  (store.find? scene).getD []

def contains (store : SpawnStore) (scene : String) : Bool := (store.find? scene).isSome

/-- The keys in increasing order. -/
def keys (store : SpawnStore) : List String := store.scenes.keys

/-- The number of directives in all scenes. -/
def size (store : SpawnStore) : Nat := store.scenes.values.flatten.length

/-- No scene has a key in the store. -/
def isEmpty (store : SpawnStore) : Bool := store.scenes.isEmpty

/-- Records the spawns of a source in line order. -/
def load (store : SpawnStore) (source : Source) : SpawnStore :=
  source.spawns.foldl (fun store spawn => store.record spawn.value.1 spawn.value.2) store

/-- Recording a directive adds it to the scenes with the same key and to no other. -/
theorem directives_record (store : SpawnStore) (scene other : String) (directive : Directive) :
    (store.record scene directive).directives other =
      if sceneKey scene = sceneKey other then store.directives other ++ [directive]
      else store.directives other := by
  simp only [directives, find?, record, Std.ExtTreeMap.getElem?_alter,
    Std.LawfulEqCmp.compare_eq_iff_eq]
  split
  next h => simp [h]
  next => rfl

/-- Recording a directive makes its scene present, and no other. -/
theorem contains_record (store : SpawnStore) (scene other : String) (directive : Directive) :
    (store.record scene directive).contains other =
      (decide (sceneKey scene = sceneKey other) || store.contains other) := by
  simp only [contains, find?, record, Std.ExtTreeMap.getElem?_alter,
    Std.LawfulEqCmp.compare_eq_iff_eq]
  split
  next h => simp [h]
  next h => simp [h]

end SpawnStore

end LootSpawn
