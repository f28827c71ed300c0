import LootSpawn.Proofs.Literal.ReadBack
import LootSpawn.Proofs.Session.Visits
import LootSpawn.Store.Document

/-!
# Documents of the loot store

A loot store is written with its item prefix and its tables, and read back as the store it was,
whatever characters its names and keys are made of. The tables may be written in any order. The
marks of merged tables are not written, so the host's tables are merged with the store that was read
as they are after a fresh load.
-/

namespace LootSpawn

/-! ## Values -/

namespace Literal

theorem mapM_map_eq_some {α β : Type} {write : α → β} {read? : β → Option α} {items : List α}
    (h : ∀ item ∈ items, read? (write item) = some item) :
    (items.map write).mapM read? = some items := by
  induction items with
  | nil => rfl
  | cons item items ih =>
      rw [List.map_cons, List.mapM_cons, h item List.mem_cons_self,
        ih fun other hother => h other (List.mem_cons_of_mem item hother)]
      rfl

theorem asUInt32?_toString (n : UInt32) : asUInt32? (.number (toString n.toNat)) = some n := by
  have hbound : n.toNat < UInt32.size := n.toNat_lt
  rw [asUInt32?, Nat.toString_eq_ofList_toDigits, String.toList_ofList, integerValue?_toDigits,
    Option.bind_some, if_pos hbound, UInt32.ofNat_toNat]

theorem asLootEntry?_ofLootEntry (entry : LootEntry) :
    asLootEntry? (ofLootEntry entry) = some entry := by
  have hweight := asUInt32?_toString entry.weight
  simp only [Nat.toString_eq_repr] at hweight
  simp [ofLootEntry, asLootEntry?, fields?, field?, optionalField?, asText?, hweight]

/-- The literal of lists under keys, in the order in which they are given. -/
def ofLists {α : Type} (ofItem : α → Literal) (lists : List (String × List α)) : Literal :=
  .map (lists.map fun (key, items) => (.text key, .list (items.map ofItem)))

theorem asStore?_ofLists {α : Type} {ofItem : α → Literal} {asItem? : Literal → Option α}
    (h : ∀ item, asItem? (ofItem item) = some item) (lists : List (String × List α)) :
    asStore? asItem? (ofLists ofItem lists) = some (Std.ExtTreeMap.ofList lists) := by
  have hitems : ∀ items, asList? asItem? (.list (items.map ofItem)) = some items :=
    fun items => mapM_map_eq_some fun item _ => h item
  have hlists : asMap? (asList? asItem?) (ofLists ofItem lists) = some lists := by
    apply mapM_map_eq_some
    intro list _
    simp [asText?, hitems]
  rw [asStore?, hlists, Option.map_some]

theorem storable_pair {depth : Nat} {first second : String} {value value' : Literal}
    (hnames : (isFieldName first && isFieldName second) = true) (h : Storable depth value)
    (h' : Storable depth value') :
    Storable (depth + 1) (.record none [(first, value), (second, value')]) := by
  rw [Bool.and_eq_true] at hnames
  refine .record (List.cons_ne_nil _ _) ?_ ?_
  · exact List.forall_mem_cons.mpr ⟨hnames.1, List.forall_mem_singleton.mpr hnames.2⟩
  · exact List.forall_mem_cons.mpr ⟨h, List.forall_mem_singleton.mpr h'⟩

theorem storable_ofLootEntry (depth : Nat) (entry : LootEntry) :
    Storable (depth + 1) (ofLootEntry entry) := by
  have hweight : entry.weight.toNat < UInt64.size := entry.weight.toNat_lt.trans (by decide)
  exact storable_pair (by decide) (.text depth entry.prefab) (.number depth hweight)

theorem storable_ofLists {α : Type} {ofItem : α → Literal} {depth : Nat}
    (h : ∀ item, Storable depth (ofItem item)) (lists : List (String × List α)) :
    Storable (depth + 2) (ofLists ofItem lists) := by
  refine .map ?_ ?_
  · rw [List.forall_mem_map]
    exact fun list _ => .text _ list.1
  · rw [List.forall_mem_map]
    refine fun list _ => .list ?_
    rw [List.forall_mem_map]
    exact fun item _ => h item

end Literal

/-- A map is made again from its entries, in whatever order they are listed. -/
theorem ofList_of_perm {α : Type} {map : Std.ExtTreeMap String α} {entries : List (String × α)}
    (h : entries.Perm map.toList) : Std.ExtTreeMap.ofList entries = map := by
  have hdistinct : entries.Pairwise fun a b => ¬ compare a.1 b.1 = .eq :=
    h.symm.pairwise Std.ExtTreeMap.distinct_keys_toList fun hne heq => hne (by simp_all)
  refine Std.ExtTreeMap.ext_getElem? fun key => ?_
  cases hvalue : map[key]? with
  | some value =>
      have hmem : (key, value) ∈ entries :=
        h.mem_iff.mpr (Std.ExtTreeMap.mem_toList_iff_getElem?_eq_some.mpr hvalue)
      exact Std.ExtTreeMap.getElem?_ofList_of_mem Std.ReflCmp.compare_self hdistinct hmem
  | none =>
      apply Std.ExtTreeMap.getElem?_ofList_of_contains_eq_false
      rw [← Bool.not_eq_true, List.contains_iff_mem]
      intro hkey
      obtain ⟨⟨_, value⟩, hmem, rfl⟩ := List.mem_map.mp hkey
      rw [h.mem_iff, Std.ExtTreeMap.mem_toList_iff_getElem?_eq_some, hvalue] at hmem
      cases hmem

/-! ## Documents -/

namespace LootStore

/-- The document of an item prefix and tables, in the order in which they are given. -/
def document (itemPrefix : String) (tables : List (String × List LootEntry)) : String :=
  Literal.toText (.record none [("item_prefix", .text itemPrefix),
    ("tables", Literal.ofLists Literal.ofLootEntry tables)])

theorem ofText?_document (itemPrefix : String) (tables : List (String × List LootEntry)) :
    ofText? (document itemPrefix tables) =
      some { itemPrefix, tables := Std.ExtTreeMap.ofList tables } := by
  have hstorable : Literal.Storable 64 (.record none [("item_prefix", .text itemPrefix),
      ("tables", Literal.ofLists Literal.ofLootEntry tables)]) :=
    Literal.storable_pair (by decide) (.text 63 itemPrefix)
      (Literal.storable_ofLists (Literal.storable_ofLootEntry 60) tables)
  have htables := Literal.asStore?_ofLists Literal.asLootEntry?_ofLootEntry tables
  rw [ofText?, document, Literal.ofText?_toText hstorable]
  simp [ofLiteral?, Literal.fields?, Literal.field?, Literal.optionalField?, Literal.asText?,
    htables]

/-- A store that is written is read back, in whatever order its tables are written: it has the item
prefix and the tables of the store, with their entries in the same order, and no table is marked in
it. Whatever tables the host hands out from then on, they are merged as after a fresh load of the
store that was written. -/
theorem document_reads_back (store : LootStore) {tables : List (String × List LootEntry)}
    (h : tables.Perm store.tables.toList) :
    store.toText = document store.itemPrefix store.tables.toList ∧
      ∃ read, ofText? store.toText = some read ∧
        ofText? (document store.itemPrefix tables) = some read ∧
        read.itemPrefix = store.itemPrefix ∧ read.tables = store.tables ∧
        (∀ id, read.isProcessed id = false) ∧
        (∀ table, read.merge table = store.clearProcessed.merge table) ∧
        ∀ (session : Session) (visits : List Visit),
          { session with loot := read }.visitAll visits =
            { session with loot := store }.freshLoad.visitAll visits := by
  have hread : ∀ entries, entries.Perm store.tables.toList →
      ofText? (document store.itemPrefix entries) = some store.clearProcessed := by
    intro entries hentries
    rw [ofText?_document, ofList_of_perm hentries]
    rfl
  exact ⟨rfl, store.clearProcessed, hread _ (.refl _), hread tables h, rfl, rfl, fun _ => rfl,
    fun _ => rfl, fun _ _ => rfl⟩

/-- Two tables, one of which is marked, with quotes, backslashes and control characters in all
names. -/
def peculiar : LootStore :=
  let store : LootStore := { itemPrefix := "G\\é_", processed := [7] }
  (store.record "\"Back\\pack\"" ⟨"ro\npe\r", 4294967295⟩).record "loottable☕\x07" ⟨"", 0⟩

def backpack : HostTable := ⟨7, "LootTable\"Back\\Pack\"", []⟩

theorem document_reads_back_peculiar :
    document peculiar.itemPrefix peculiar.tables.toList.reverse ≠ peculiar.toText ∧
      (peculiar.merge backpack).1 = .alreadyProcessed ∧
      ∃ read, ofText? (document peculiar.itemPrefix peculiar.tables.toList.reverse) = some read ∧
        read.keys = peculiar.keys ∧ (read.merge backpack).1 = .merged 1 0 := by
  obtain ⟨-, read, -, hread, -, htables, -, hmerge, -⟩ :=
    peculiar.document_reads_back (List.reverse_perm peculiar.tables.toList)
  refine ⟨by decide +kernel, by decide +kernel, read, hread, ?_, ?_⟩
  · rw [keys, htables, ← keys]
  · rw [hmerge]
    decide +kernel

end LootStore

end LootSpawn
