import LootSpawn.Proofs.Name.Keys
import LootSpawn.Proofs.Store.Grouping
import LootSpawn.Store.Spawns

/-!
# What a spawn store holds

A spawn store is a log: it holds the directives that were recorded, grouped by the keys of their
scenes and in the order in which they were recorded. Looking up a scene, listing the keys and
counting the directives are three views of that log.
-/

namespace LootSpawn

/-- The directives that a log has for a scene, under any spelling of its name. -/
def directivesFor (scene : String) (log : List (String × Directive)) : List Directive :=
  (log.filter fun spawn => sceneKey spawn.1 = sceneKey scene).map Prod.snd

/-- A log of scenes and directives, by the keys of the scenes. -/
def keyedSpawns (log : List (String × Directive)) : List (String × Directive) :=
  log.map fun spawn => (sceneKey spawn.1, spawn.2)

theorem valuesUnder_keyedSpawns (scene : String) (log : List (String × Directive)) :
    valuesUnder (sceneKey scene) (keyedSpawns log) = directivesFor scene log := by
  rw [valuesUnder, keyedSpawns, List.filter_map, List.map_map]
  rfl

namespace SpawnStore

/-- A scene is found under its key as under its name. -/
@[simp]
theorem directives_sceneKey (store : SpawnStore) (scene : String) :
    store.directives (sceneKey scene) = store.directives scene := by
  rw [directives, find?, sceneKey_sceneKey]
  rfl

def recordAll (store : SpawnStore) (log : List (String × Directive)) : SpawnStore :=
  log.foldl (fun store spawn => store.record spawn.1 spawn.2) store

theorem load_eq_recordAll (store : SpawnStore) (source : Source) :
    store.load source = store.recordAll (source.spawns.map Numbered.value) := by
  rw [recordAll, List.foldl_map]
  rfl

theorem recordAll_append (store : SpawnStore) (first second : List (String × Directive)) :
    store.recordAll (first ++ second) = (store.recordAll first).recordAll second :=
  List.foldl_append

theorem scenes_recordAll (store : SpawnStore) (log : List (String × Directive)) :
    (store.recordAll log).scenes = grouped store.scenes (keyedSpawns log) := by
  induction log generalizing store with
  | nil => rfl
  | cons spawn log ih => exact ih (store.record spawn.1 spawn.2)

/-- A log that is recorded in a store comes after what the store has for a scene. -/
theorem directives_recordAll (store : SpawnStore) (log : List (String × Directive))
    (scene : String) :
    (store.recordAll log).directives scene =
      store.directives scene ++ directivesFor scene log := by
  rw [directives, find?, scenes_recordAll, getD_grouped, valuesUnder_keyedSpawns]
  rfl

/-- The views of a store are those of a log: the directives of each scene, the scenes that have any,
their keys in increasing order, and the number of directives. -/
structure Holds (store : SpawnStore) (log : List (String × Directive)) : Prop where
  directives : ∀ scene, store.directives scene = directivesFor scene log
  contains : ∀ scene, store.contains scene = true ↔ store.directives scene ≠ []
  keys : ∀ key, key ∈ store.keys ↔ ∃ scene, sceneKey scene = key ∧ store.directives scene ≠ []
  increasing : store.keys.Pairwise fun first second => Text.bytes first < Text.bytes second
  size : store.size = log.length
  isEmpty : store.isEmpty = true ↔ store.size = 0

/-- A store that a log was recorded in holds the log. -/
theorem holds_recordAll (log : List (String × Directive)) :
    (({} : SpawnStore).recordAll log).Holds log := by
  have hscenes : (({} : SpawnStore).recordAll log).scenes = grouped ∅ (keyedSpawns log) :=
    scenes_recordAll {} log
  have hdirectives : ∀ scene,
      (({} : SpawnStore).recordAll log).directives scene = directivesFor scene log := by
    intro scene
    rw [directives_recordAll]
    simp [directives, find?]
  have hsize : (({} : SpawnStore).recordAll log).size = log.length := by
    rw [size, hscenes, length_flatten_values_grouped, keyedSpawns, List.length_map]
  refine ⟨hdirectives, ?_, ?_, keys_pairwise_bytes _, hsize, ?_⟩
  · intro scene
    rw [hdirectives, contains, find?, hscenes, ← Std.ExtTreeMap.mem_iff_isSome_getElem?,
      ← Std.ExtTreeMap.mem_keys, mem_keys_grouped, valuesUnder_keyedSpawns]
  · intro key
    rw [keys, hscenes, mem_keys_grouped]
    simp only [hdirectives, ← valuesUnder_keyedSpawns]
    constructor
    · intro hkey
      -- A key with a directive is the key of the scene under which the directive was recorded.
      obtain ⟨entry, hentry, rfl⟩ := List.mem_map.mp ((valuesUnder_ne_nil_iff _ _).mp hkey)
      obtain ⟨spawn, -, rfl⟩ := List.mem_map.mp hentry
      exact ⟨spawn.1, rfl, hkey⟩
    · rintro ⟨scene, rfl, hscene⟩
      exact hscene
  · rw [hsize, isEmpty, hscenes, isEmpty_grouped, keyedSpawns, List.map_eq_nil_iff,
      List.length_eq_zero_iff]

end SpawnStore

end LootSpawn
