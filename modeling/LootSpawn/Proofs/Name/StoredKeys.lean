import LootSpawn.Proofs.Name.HostNames
import LootSpawn.Proofs.Store.SpawnContents
import LootSpawn.Scene.Resolver

/-!
# Keys used as names

A scene is looked up under the key of its key, and what was listed by key may be recorded again
under that key. Lower case stays as it is when it is taken once more, for every text and in every
position, and a table key starts with `loot` already, so a key used as a name meets the list that
the name itself meets.
-/

namespace LootSpawn

/-- The key of a table is complete, and stays as it is. -/
@[simp]
theorem lootTableKey_lootTableKey (name : String) :
    lootTableKey (lootTableKey name) = lootTableKey name := by
  have hlower := lowerString_lootTableKey name
  have hprefix : "loot".toList <+: Text.lower (lootTableKey name).toList := by
    rw [← String.toList_ofList (l := Text.lower _), ← Text.lowerString, hlower]
    exact isPrefix_lootTableKey name
  rw [lootTableKey_of_isPrefix hprefix, hostTableKey, hlower]

theorem hostTableKey_lootTableKey (name : String) :
    hostTableKey (lootTableKey name) = lootTableKey name :=
  lowerString_lootTableKey name

/-! ## Logs by key -/

theorem SpawnStore.recordAll_keyedSpawns (store : SpawnStore) (log : List (String × Directive)) :
    store.recordAll (keyedSpawns log) = store.recordAll log := by
  induction log generalizing store with
  | nil => rfl
  | cons spawn log ih =>
      have hspawn : store.record (sceneKey spawn.1) spawn.2 = store.record spawn.1 spawn.2 := by
        rw [record, sceneKey_sceneKey]
        rfl
      calc store.recordAll (keyedSpawns (spawn :: log))
          = (store.record (sceneKey spawn.1) spawn.2).recordAll (keyedSpawns log) := rfl
        _ = store.recordAll (spawn :: log) := by
          rw [hspawn, ih]
          rfl

/-- A log of tables and entries, by the keys of the tables. -/
def keyedTables (log : List (String × LootEntry)) : List (String × LootEntry) :=
  log.map fun loot => (lootTableKey loot.1, loot.2)

theorem LootStore.recordAll_keyedTables (store : LootStore) (log : List (String × LootEntry)) :
    store.recordAll (keyedTables log) = store.recordAll log := by
  induction log generalizing store with
  | nil => rfl
  | cons loot log ih =>
      have hloot := (LootStore.record_eq_iff (lootTableKey loot.1) loot.1).mpr
        (lootTableKey_lootTableKey loot.1) store loot.2
      calc store.recordAll (keyedTables (loot :: log))
          = (store.record (lootTableKey loot.1) loot.2).recordAll (keyedTables log) := rfl
        _ = store.recordAll (loot :: log) := by
          rw [hloot, ih]
          rfl

/-! ## Scenes by key -/

namespace Resolver

variable {σ τ ρ Asset Handle : Type}

/-- A scene is resolved by its key as by its name, and by either with the directives of the name. -/
theorem resolve_sceneKey (resolver : Resolver σ τ ρ Asset Handle) (store : SpawnStore)
    (scene : String) (stage : Stage σ τ ρ) :
    let (fates, after) := resolver.fates stage (store.directives scene)
    resolver.resolve store (sceneKey scene) stage = resolver.resolve store scene stage ∧
      resolver.resolve store scene stage = (.ofFates (sceneKey scene) fates, after) ∧
      fates.map Prod.fst = store.directives scene := by
  refine ⟨?_, ?_, resolver.map_fst_fates stage (store.directives scene)⟩
  · rw [resolve, resolve, sceneKey_sceneKey]
  · rw [resolve_eq_ofFates, SpawnStore.directives_sceneKey]

end Resolver

/-- A key is its own key, for scenes and for tables, and a table key is what the host looks up under
it and starts with `loot`. So whatever is recorded under keys in place of names makes the same
store, a scene is resolved with the directives of its name, and what is recorded for a table reaches
a table of the host that is called by the key. -/
theorem keys_meet_their_lists (name : String) :
    sceneKey (sceneKey name) = sceneKey name ∧
      lootTableKey (lootTableKey name) = lootTableKey name ∧
      hostTableKey (lootTableKey name) = lootTableKey name ∧
      "loot".toList <+: (lootTableKey name).toList ∧
      (∀ (store : SpawnStore) (log : List (String × Directive)),
        store.recordAll (keyedSpawns log) = store.recordAll log ∧
          (store.recordAll (keyedSpawns log)).directives (sceneKey name) =
            store.directives name ++ directivesFor name log) ∧
      (∀ (σ τ ρ Asset Handle : Type) (resolver : Resolver σ τ ρ Asset Handle) (store : SpawnStore)
        (stage : Stage σ τ ρ),
        let (fates, after) := resolver.fates stage (store.directives name)
        resolver.resolve store (sceneKey name) stage = resolver.resolve store name stage ∧
          resolver.resolve store name stage = (.ofFates (sceneKey name) fates, after) ∧
          fates.map Prod.fst = store.directives name) ∧
      (∀ (store : LootStore) (log : List (String × LootEntry)),
        store.recordAll (keyedTables log) = store.recordAll log ∧
          (store.recordAll (keyedTables log)).entries (lootTableKey name) =
            store.entries (lootTableKey name) ++
              storedUnder store.itemPrefix (lootTableKey name) log) ∧
      ∀ (store : LootStore) (entry : LootEntry) (table : HostTable),
        table.name = lootTableKey name → store.isProcessed table.id = false →
          ((store.record name entry).merge table).1.isMerged = true ∧
            ((store.record name entry).merge table).2.2 = table.enriched
              (store.entries (lootTableKey name) ++ [entry.prefixed store.itemPrefix]) := by
  have hhost := hostTableKey_lootTableKey name
  refine ⟨sceneKey_sceneKey name, lootTableKey_lootTableKey name, hhost,
    isPrefix_lootTableKey name, fun store log => ?_, fun _ _ _ _ _ resolver store stage =>
    resolver.resolve_sceneKey store name stage, fun store log => ?_, ?_⟩
  · rw [store.recordAll_keyedSpawns, SpawnStore.directives_sceneKey]
    exact ⟨rfl, store.directives_recordAll log name⟩
  · rw [store.recordAll_keyedTables]
    exact ⟨rfl, store.entries_recordAll log (lootTableKey name)⟩
  · have hmerge := (LootStore.merge_record_iff name (lootTableKey name)).mpr hhost.symm
    rwa [hhost] at hmerge

/-- The capital sigma at the end of the name is put in lower case once and for all. -/
theorem keys_meet_their_lists_street :
    lootTableKey "ΟΔΟΣ" = "loottableοδος" ∧ lootTableKey "loottableοδος" = "loottableοδος" ∧
      ((({} : LootStore).record "ΟΔΟΣ" ⟨"rope", 3⟩).merge ⟨1, "loottableοδος", []⟩).2.2 =
        ⟨1, "loottableοδος", [⟨"GEAR_rope", 3⟩]⟩ := by
  have hkey : lootTableKey "ΟΔΟΣ" = "loottableοδος" := by decide +kernel
  obtain ⟨-, htwice, -, -, -, -, -, hmerge⟩ := keys_meet_their_lists "ΟΔΟΣ"
  rw [hkey] at htwice
  have hmerged := (hmerge {} ⟨"rope", 3⟩ ⟨1, "loottableοδος", []⟩ hkey.symm rfl).2
  refine ⟨hkey, htwice, hmerged.trans ?_⟩
  rw [hkey]
  decide +kernel

end LootSpawn
