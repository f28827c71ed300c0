import LootSpawn.Proofs.Name.Keys
import LootSpawn.Proofs.Store.Grouping
import LootSpawn.Store.Loot

/-!
# What a loot store holds

A loot store is a log: under each key it holds the entries that were recorded for that key, in the
order in which they were recorded and with their items prefixed. Looking up a key, listing the keys
and counting the entries are views of that log. Marks do not touch the contents.
-/

namespace LootSpawn

/-- The entry as it is stored. -/
def LootEntry.prefixed (entry : LootEntry) (itemPrefix : String) : LootEntry :=
  { entry with prefab := itemName entry.prefab itemPrefix }

/-- What a log of tables and entries stores under a key. -/
def storedUnder (itemPrefix key : String) (log : List (String × LootEntry)) : List LootEntry :=
  (log.filter fun loot => lootTableKey loot.1 = key).map fun loot => loot.2.prefixed itemPrefix

/-- A log of tables and entries as they are stored, by the keys of the tables. -/
def keyedLoot (itemPrefix : String) (log : List (String × LootEntry)) :
    List (String × LootEntry) :=
  log.map fun loot => (lootTableKey loot.1, loot.2.prefixed itemPrefix)

theorem valuesUnder_keyedLoot (itemPrefix key : String) (log : List (String × LootEntry)) :
    valuesUnder key (keyedLoot itemPrefix log) = storedUnder itemPrefix key log := by
  rw [valuesUnder, keyedLoot, List.filter_map, List.map_map]
  rfl

namespace LootStore

def recordAll (store : LootStore) (log : List (String × LootEntry)) : LootStore :=
  log.foldl (fun store loot => store.record loot.1 loot.2) store

theorem load_eq_recordAll (store : LootStore) (source : Source) :
    store.load source = store.recordAll (source.lootEntries.map Numbered.value) := by
  rw [recordAll, List.foldl_map]
  rfl

theorem recordAll_append (store : LootStore) (first second : List (String × LootEntry)) :
    store.recordAll (first ++ second) = (store.recordAll first).recordAll second :=
  List.foldl_append

@[simp]
theorem processed_recordAll (store : LootStore) (log : List (String × LootEntry)) :
    (store.recordAll log).processed = store.processed := by
  induction log generalizing store with
  | nil => rfl
  | cons loot rest ih => exact ih (store.record loot.1 loot.2)

@[simp]
theorem itemPrefix_recordAll (store : LootStore) (log : List (String × LootEntry)) :
    (store.recordAll log).itemPrefix = store.itemPrefix := by
  induction log generalizing store with
  | nil => rfl
  | cons loot rest ih => exact ih (store.record loot.1 loot.2)

theorem entries_of_tables {store : LootStore} {key : String} {stored : List LootEntry}
    (h : store.tables[key]? = some stored) : store.entries key = stored := by
  rw [entries, h]
  rfl

theorem tables_recordAll_eq_grouped (store : LootStore) (log : List (String × LootEntry)) :
    (store.recordAll log).tables =
      grouped store.tables (keyedLoot store.itemPrefix log) := by
  induction log generalizing store with
  | nil => rfl
  | cons loot rest ih => exact ih (store.record loot.1 loot.2)

/-- Recording a log appends to the list of each key, and a key without a part in the log keeps its
list, or stays absent. -/
theorem tables_recordAll (store : LootStore) (log : List (String × LootEntry)) (key : String) :
    (store.recordAll log).tables[key]? =
      if storedUnder store.itemPrefix key log = [] then store.tables[key]?
      else some (store.entries key ++ storedUnder store.itemPrefix key log) := by
  rw [tables_recordAll_eq_grouped, getElem?_grouped, valuesUnder_keyedLoot]
  rfl

theorem entries_recordAll (store : LootStore) (log : List (String × LootEntry)) (key : String) :
    (store.recordAll log).entries key =
      store.entries key ++ storedUnder store.itemPrefix key log := by
  rw [entries, tables_recordAll]
  split
  next hnil =>
    rw [hnil, List.append_nil]
    rfl
  next => rfl

/-- The views of a store are those of a log under an item prefix: the entries of each key with their
items prefixed, the keys that have any, in normal form and increasing order, and the number of
entries. -/
structure Holds (store : LootStore) (itemPrefix : String) (log : List (String × LootEntry)) :
    Prop where
  configured : store.itemPrefix = itemPrefix
  entries : ∀ key, store.entries key = storedUnder itemPrefix key log
  prefixed : ∀ key, ∀ entry ∈ store.entries key, ∃ rest, entry.prefab = itemPrefix ++ rest
  nonempty : ∀ key : String, store.tables[key]? ≠ some []
  keys : ∀ key, key ∈ store.keys ↔ store.entries key ≠ []
  normal : ∀ key ∈ store.keys, "loot".toList <+: key.toList ∧ Text.lowerString key = key
  increasing : store.keys.Pairwise fun first second => Text.bytes first < Text.bytes second
  size : (store.keys.map fun key => (store.entries key).length).sum = log.length

/-- A store with the tables of a log holds the log, whatever is marked. -/
theorem holds_of_tables {store : LootStore} {itemPrefix : String} {log : List (String × LootEntry)}
    (hconfigured : store.itemPrefix = itemPrefix)
    (htables : store.tables = grouped ∅ (keyedLoot itemPrefix log)) :
    store.Holds itemPrefix log := by
  have hentries : ∀ key, store.entries key = storedUnder itemPrefix key log := by
    intro key
    rw [entries, htables, getD_grouped, valuesUnder_keyedLoot]
    simp
  have hkeys : ∀ key, key ∈ store.keys ↔ store.entries key ≠ [] := by
    intro key
    rw [keys, htables, mem_keys_grouped, valuesUnder_keyedLoot, hentries]
  refine ⟨hconfigured, hentries, ?_, ?_, hkeys, ?_, keys_pairwise_bytes _, ?_⟩
  · intro key entry hentry
    rw [hentries] at hentry
    obtain ⟨loot, -, rfl⟩ := List.mem_map.mp hentry
    exact exists_itemName_eq loot.2.prefab itemPrefix
  · intro key hempty
    have hkey : key ∈ store.keys := by
      rw [keys, Std.ExtTreeMap.mem_keys, Std.ExtTreeMap.mem_iff_isSome_getElem?, hempty]
      rfl
    apply (hkeys key).mp hkey
    rw [entries, hempty]
    rfl
  · intro key hkey
    -- A key with an entry is the key of the table under which the entry was recorded.
    rw [hkeys, hentries, ← valuesUnder_keyedLoot, valuesUnder_ne_nil_iff] at hkey
    obtain ⟨entry, hentry, rfl⟩ := List.mem_map.mp hkey
    obtain ⟨loot, -, rfl⟩ := List.mem_map.mp hentry
    exact ⟨isPrefix_lootTableKey loot.1, lowerString_lootTableKey loot.1⟩
  · calc (store.keys.map fun key => (store.entries key).length).sum
        = store.tables.values.flatten.length := (length_flatten_values store.tables).symm
      _ = log.length := by
        rw [htables, length_flatten_values_grouped, keyedLoot, List.length_map]

theorem tables_merge (store : LootStore) (table : HostTable) :
    (store.merge table).2.1.tables = store.tables := by
  rw [merge]
  split
  next => rfl
  next =>
    split
    next => rfl
    next => rfl

@[simp]
theorem entries_merge (store : LootStore) (table : HostTable) (key : String) :
    (store.merge table).2.1.entries key = store.entries key := by
  rw [entries, tables_merge]
  rfl

end LootStore

end LootSpawn
