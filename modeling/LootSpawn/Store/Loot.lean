import LootSpawn.Name
import LootSpawn.Source.Basic
import Std.Data.ExtTreeMap

/-!
# The loot store and the host's tables

Loot entries are kept per table key, with the item prefix applied when they are recorded. They are
merged into the host's own tables, each at most once until a fresh load: an entry is added unless
its item, in any letter case, is in the table already or was added before it.
-/

namespace LootSpawn

open Text

/-- A loot table of the host. Tables are told apart by their identity, and several may share a
name. -/
structure HostTable where
  id : Int
  name : String
  entries : List LootEntry := []
  deriving DecidableEq

/-- The weight of the first entry for an item, compared up to ASCII case. -/
def HostTable.weightOf? (table : HostTable) (prefab : String) : Option UInt32 :=
  (table.entries.find? fun entry => sameAsciiCase entry.prefab.toList prefab.toList).map (·.weight)

/-- What a merge did. -/
inductive MergeOutcome where
  | noTable
  | alreadyProcessed
  | noEntries
  | merged (added skipped : Nat)
  deriving DecidableEq, Repr

/-- Loot entries by table key, and the identities of the host tables that were merged since the
last fresh load. -/
structure LootStore where
  itemPrefix : String := defaultItemPrefix
  tables : Std.ExtTreeMap String (List LootEntry) := ∅
  processed : List Int := []

namespace LootStore

/-- Adds an entry, with its item name prefixed, after those of its table. -/
def record (store : LootStore) (table : String) (entry : LootEntry) : LootStore :=
  let entry := { entry with prefab := itemName entry.prefab store.itemPrefix }
  { store with
    tables := store.tables.alter (lootTableKey table) fun known => some (known.getD [] ++ [entry]) }

/-- The entries stored under a key, which is taken as it is. -/
def entries (store : LootStore) (key : String) : List LootEntry := store.tables[key]?.getD []

/-- The keys in increasing order. -/
def keys (store : LootStore) : List String := store.tables.keys

/-- The host table with this identity was merged since the last fresh load. -/
def isProcessed (store : LootStore) (id : Int) : Bool := store.processed.contains id

/-- Forgets which host tables were merged. -/
def clearProcessed (store : LootStore) : LootStore := { store with processed := [] }

/-- Records the loot entries of a source in line order. -/
def load (store : LootStore) (source : Source) : LootStore :=
  source.lootEntries.foldl (fun store loot => store.record loot.value.1 loot.value.2) store

/-- The entries whose item is not among the `present` lower-case names nor that of an entry before
them, in order. -/
def additions (present : List String) : List LootEntry → List LootEntry
  | [] => []
  | entry :: rest =>
      let name := lowerString entry.prefab
      if present.contains name then additions present rest
      else entry :: additions (name :: present) rest

/-- Adds the stored entries of a host table to it and marks it. A table that is marked already, or
for which nothing is stored, stays as it is, and so does the store. -/
def merge (store : LootStore) (table : HostTable) : MergeOutcome × LootStore × HostTable :=
  if store.isProcessed table.id then (.alreadyProcessed, store, table)
  else match store.tables[hostTableKey table.name]? with
    | none => (.noEntries, store, table)
    | some stored =>
        let added := additions (table.entries.map fun entry => lowerString entry.prefab) stored
        (.merged added.length (stored.length - added.length),
          { store with processed := table.id :: store.processed },
          { table with entries := table.entries ++ added })

/-- Recording an entry adds it, with its item name prefixed, under the key of its table. -/
theorem entries_record (store : LootStore) (table key : String) (entry : LootEntry) :
    (store.record table entry).entries key =
      if lootTableKey table = key then
        store.entries key ++ [{ entry with prefab := itemName entry.prefab store.itemPrefix }]
      else store.entries key := by
  simp only [entries, record, Std.ExtTreeMap.getElem?_alter, Std.LawfulEqCmp.compare_eq_iff_eq]
  split
  next h => simp [h]
  next => rfl

/-- Only stored entries are added, each at most once. -/
theorem length_additions_le (present : List String) (entries : List LootEntry) :
    (additions present entries).length ≤ entries.length := by
  fun_induction additions present entries with
  | case1 => exact Nat.le_refl _
  | case2 present entry rest name hmem ih => exact Nat.le_succ_of_le ih
  | case3 present entry rest name hmem ih => exact Nat.succ_le_succ ih

/-- Marks are set by merges that add a table's entries, and by nothing else. -/
theorem isProcessed_merge (store : LootStore) (table : HostTable) (id : Int) :
    (store.merge table).2.1.isProcessed id =
      (store.isProcessed id ||
        (decide (id = table.id) && (store.tables[hostTableKey table.name]?).isSome)) := by
  simp only [merge]
  split
  next h =>
    by_cases hid : id = table.id
    · simp [hid, h]
    · simp [hid]
  next =>
    split
    next hnone => simp [hnone]
    next stored hsome =>
      simp [isProcessed, hsome, Bool.or_comm]

end LootStore

end LootSpawn
