import LootSpawn.Proofs.Store.LootContents
import LootSpawn.Proofs.Store.NewEntries
import LootSpawn.Proofs.Text.AsciiSpelling

/-!
# Weights of merged items

A merge takes two names for one item if they are equal in lower case, and the weight of an item is
looked up by equality up to ASCII case. What is found by its name is therefore an item of the table,
and after a merge every stored item is in the table; but an item is found by its name only if the
entry that got in first for it has the name up to ASCII case.
-/

namespace LootSpawn

open Text

/-- The name of the entry is the given one, up to ASCII case. -/
def LootEntry.isNamed (entry : LootEntry) (name : String) : Bool :=
  sameAsciiCase entry.prefab.toList name.toList

namespace LootEntry

theorem isNamed_self (entry : LootEntry) : entry.isNamed entry.prefab = true :=
  (sameAsciiCase_iff _ _).mpr rfl

theorem item_of_isNamed {entry other : LootEntry} (h : entry.isNamed other.prefab = true) :
    entry.item = other.item := by
  rw [item, item, lowerString, lowerString, lower_eq_of_sameAsciiCase h]

end LootEntry

/-- The weight of the first of the entries with the name. -/
def weightIn? (entries : List LootEntry) (name : String) : Option UInt32 :=
  (entries.find? (·.isNamed name)).map (·.weight)

theorem HostTable.weightOf?_eq_weightIn? (table : HostTable) (name : String) :
    table.weightOf? name = weightIn? table.entries name := rfl

/-- The first of the entries for the item of the given one, if there is any, has its name. -/
def leadsUnderName (entries : List LootEntry) (entry : LootEntry) : Bool :=
  (entries.find? fun other => other.item = entry.item).any (·.isNamed entry.prefab)

theorem find?_item_eq_none {entries : List LootEntry} {name : String} :
    entries.find? (fun entry => entry.item = name) = none ↔
      name ∉ entries.map LootEntry.item := by
  simp only [List.find?_eq_none, decide_eq_true_eq, List.mem_map, not_exists, not_and]

/-- Among the new entries an item that is not in the table yet has the entry that was stored for it
first, and an item of the table has none. -/
theorem find?_item_newEntries (base stored : List LootEntry) (name : String) :
    (newEntries base stored).find? (fun entry => entry.item = name) =
      if name ∈ base.map LootEntry.item then none
      else stored.find? (fun entry => entry.item = name) := by
  induction stored using List.reverseRecOn with
  | nil => rw [newEntries_nil, List.find?_nil, ite_self]
  | append_singleton stored last ih =>
      rw [newEntries_concat, List.find?_append, ih, List.find?_append]
      by_cases hlast : last.item = name
      · subst hlast
        by_cases hbase : last.item ∈ base.map LootEntry.item
        · have hmem : last.item ∈ (base ++ stored).map LootEntry.item := by
            rw [List.map_append]
            exact List.mem_append_left _ hbase
          rw [if_pos hbase, if_pos hbase, if_pos hmem]
          rfl
        · rw [if_neg hbase, if_neg hbase]
          cases hfound : stored.find? (fun entry => entry.item = last.item) with
          | some first => rfl
          | none =>
              have hstored := find?_item_eq_none.mp hfound
              have hmem : last.item ∉ (base ++ stored).map LootEntry.item := by
                rw [List.map_append, List.mem_append, not_or]
                exact ⟨hbase, hstored⟩
              rw [if_neg hmem]
      · have hskip : [last].find? (fun entry => entry.item = name) = none := by
          simp [hlast]
        have hadded : (if last.item ∈ (base ++ stored).map LootEntry.item then []
            else [last]).find? (fun entry => entry.item = name) = none := by
          split
          next => rfl
          next => exact hskip
        rw [hadded, hskip, Option.or_none, Option.or_none]

/-- What a look-up by name finds has the item, so it finds the first entry for the item or nothing,
as long as no item has two entries. -/
theorem find?_isNamed_newEntries (base stored : List LootEntry) (entry : LootEntry) :
    (newEntries base stored).find? (·.isNamed entry.prefab) =
      ((newEntries base stored).find? fun other => other.item = entry.item).filter
        (·.isNamed entry.prefab) := by
  cases hfound : (newEntries base stored).find? (·.isNamed entry.prefab) with
  | none =>
      cases hitem : (newEntries base stored).find? (fun other => other.item = entry.item) with
      | none => rfl
      | some first =>
          have hnot := List.find?_eq_none.mp hfound first (List.mem_of_find?_eq_some hitem)
          rw [Option.filter_some, if_neg hnot]
  | some named =>
      have hnamed : named.isNamed entry.prefab = true := (List.find?_some hfound :)
      have hmem : named ∈ newEntries base stored := List.mem_of_find?_eq_some hfound
      have hitem : named.item = entry.item := LootEntry.item_of_isNamed hnamed
      -- Both are the first entry that is stored for the item.
      have hfirst := find?_of_mem_newEntries hmem
      have hnone : named.item ∉ base.map LootEntry.item := by
        have hsome := find?_item_newEntries base stored named.item
        intro hbase
        rw [if_pos hbase, List.find?_eq_none] at hsome
        exact hsome named hmem (decide_eq_true rfl)
      rw [← hitem, find?_item_newEntries, if_neg hnone, hfirst, Option.filter_some, if_pos hnamed]

/-- The first entry with the name of an entry is the first one for its item, if that has the
name. -/
theorem find?_isNamed_of_leads {entries : List LootEntry} {entry first : LootEntry}
    (hitem : entries.find? (fun other => other.item = entry.item) = some first)
    (hnamed : first.isNamed entry.prefab = true) :
    entries.find? (·.isNamed entry.prefab) = some first := by
  obtain ⟨-, before, after, rfl, hbefore⟩ := List.find?_eq_some_iff_append.mp hitem
  refine List.find?_eq_some_iff_append.mpr ⟨hnamed, before, after, rfl, fun other hother => ?_⟩
  have hitem : other.item ≠ entry.item := by simpa using hbefore other hother
  rw [Bool.not_eq_true']
  exact Bool.eq_false_iff.mpr fun h => hitem (LootEntry.item_of_isNamed h)

/-- In the table with the new ones of the stored entries, an entry that is stored has the weight
that its name had before, or else the weight of the first stored entry with its name, unless the
first entry for its item has another name. -/
theorem weightIn?_enriched (base stored : List LootEntry) (entry : LootEntry) :
    weightIn? (base ++ newEntries base stored) entry.prefab =
      (weightIn? base entry.prefab).or
        (if leadsUnderName (base ++ stored) entry then weightIn? stored entry.prefab
          else none) := by
  simp only [weightIn?, leadsUnderName, List.find?_append, find?_isNamed_newEntries,
    find?_item_newEntries]
  cases hbase : base.find? (·.isNamed entry.prefab) with
  | some first => rfl
  | none =>
      rw [Option.none_or, Option.map_none, Option.none_or]
      cases hitem : base.find? (fun other => other.item = entry.item) with
      | some first =>
          have hmem : entry.item ∈ base.map LootEntry.item := by
            by_contra hnot
            rw [find?_item_eq_none.mpr hnot] at hitem
            cases hitem
          have hnamed := List.find?_eq_none.mp hbase first (List.mem_of_find?_eq_some hitem)
          rw [if_pos hmem, Option.some_or, Option.any_some, if_neg hnamed]
          rfl
      | none =>
          rw [if_neg (find?_item_eq_none.mp hitem), Option.none_or]
          cases hstored : stored.find? (fun other => other.item = entry.item) with
          | none => rfl
          | some first =>
              rw [Option.filter_some, Option.any_some]
              by_cases hnamed : first.isNamed entry.prefab = true
              · rw [if_pos hnamed, if_pos hnamed, find?_isNamed_of_leads hstored hnamed]
              · rw [if_neg hnamed, if_neg hnamed]
                rfl

/-! ## Names that a merge and a look-up take alike -/

/-- All of the entries for the item of the given one have its name. -/
def NamedAlike (entries : List LootEntry) (entry : LootEntry) : Prop :=
  ∀ other ∈ entries, other.item = entry.item → other.isNamed entry.prefab = true

/-- A name of ASCII characters other than k has no other spelling in any letter case than those in
ASCII case. -/
theorem namedAlike_of_plain (entries : List LootEntry) {entry : LootEntry}
    (h : ∀ c ∈ entry.prefab.toList, IsPlain c) : NamedAlike entries entry := by
  intro other _ hitem
  have hsame : sameAsciiCase entry.prefab.toList other.prefab.toList = true :=
    (sameAsciiCase_iff_lower_eq h _).mpr (String.ofList_injective hitem.symm)
  rw [sameAsciiCase_iff] at hsame
  exact (sameAsciiCase_iff _ _).mpr hsame.symm

/-- Neither do names in ASCII differ in other ways than in ASCII case. -/
theorem namedAlike_of_ascii {entries : List LootEntry} {entry : LootEntry}
    (h : ∀ other ∈ entries, ∀ c ∈ other.prefab.toList, c.toNat < 0x80) (hentry : entry ∈ entries) :
    NamedAlike entries entry := by
  intro other hother hitem
  have hlower : lower other.prefab.toList = lower entry.prefab.toList :=
    String.ofList_injective hitem
  rw [lower, lower, lowerAfter_ascii [] (h other hother), lowerAfter_ascii [] (h entry hentry)]
    at hlower
  exact (sameAsciiCase_iff _ _).mpr hlower

theorem mem_items_iff_of_namedAlike {entries : List LootEntry} {entry : LootEntry}
    (h : NamedAlike entries entry) :
    (weightIn? entries entry.prefab).isSome = true ↔ entry.item ∈ entries.map LootEntry.item := by
  rw [weightIn?, Option.isSome_map, List.find?_isSome, List.mem_map]
  constructor
  · rintro ⟨other, hother, hnamed⟩
    exact ⟨other, hother, LootEntry.item_of_isNamed hnamed⟩
  · rintro ⟨other, hother, hitem⟩
    exact ⟨other, hother, h other hother hitem⟩

theorem leadsUnderName_of_namedAlike {entries : List LootEntry} {entry : LootEntry}
    (h : NamedAlike entries entry) (hentry : entry ∈ entries) :
    leadsUnderName entries entry = true := by
  rw [leadsUnderName]
  cases hfirst : entries.find? (fun other => other.item = entry.item) with
  | none =>
      exact absurd (decide_eq_true rfl) (List.find?_eq_none.mp hfirst entry hentry)
  | some first =>
      have hitem : first.item = entry.item := by simpa using List.find?_some hfirst
      exact h first (List.mem_of_find?_eq_some hfirst) hitem

namespace LootStore

/-- After a merge the table has the item of every stored entry, and nothing that could be looked up
before was added. By its name an entry is found with the weight that was found before, or else with
the weight of the first stored entry of the name, but the latter only if the first entry of all for
the item has the name. That is so if the name of the entry is plain, or if all names are in ASCII:
then a merge and a look-up agree on what is in the table. -/
theorem weights_after_merge (store : LootStore) (table : HostTable)
    (hmerged : (store.merge table).1.isMerged = true) :
    let stored := store.entries (hostTableKey table.name)
    let merged := (store.merge table).2.2
    ∀ entry ∈ stored,
      entry.item ∈ merged.entries.map LootEntry.item ∧
      ((table.weightOf? entry.prefab).isSome = true →
        entry.item ∈ table.entries.map LootEntry.item) ∧
      ∃ weight, weightIn? stored entry.prefab = some weight ∧
        merged.weightOf? entry.prefab = (table.weightOf? entry.prefab).or
          (if leadsUnderName (table.entries ++ stored) entry then some weight else none) ∧
        (merged.weightOf? entry.prefab = (table.weightOf? entry.prefab).or (some weight) ↔
          (table.weightOf? entry.prefab).isSome = true ∨
            leadsUnderName (table.entries ++ stored) entry = true) ∧
        ((∀ c ∈ entry.prefab.toList, IsPlain c) ∨
            (∀ other ∈ table.entries ++ stored, ∀ c ∈ other.prefab.toList, c.toNat < 0x80) →
          ((table.weightOf? entry.prefab).isSome = true ↔
              entry.item ∈ table.entries.map LootEntry.item) ∧
            merged.weightOf? entry.prefab =
              (table.weightOf? entry.prefab).or (some weight)) := by
  intro stored merged entry hentry
  have hentries : merged.entries = table.entries ++ newEntries table.entries stored := by
    rcases store.merge_cases table with ⟨-, hmerge⟩ | ⟨-, -, hmerge⟩ | ⟨found, -, hfound, hmerge⟩
    · rw [hmerge] at hmerged
      cases hmerged
    · rw [hmerge] at hmerged
      cases hmerged
    · have hstored : stored = found := entries_of_tables hfound
      rw [hstored]
      exact congrArg (fun merge => merge.2.2.entries) hmerge
  have hmem : entry ∈ table.entries ++ stored := List.mem_append_right _ hentry
  have hfirst : (stored.find? (·.isNamed entry.prefab)).isSome = true :=
    List.find?_isSome.mpr ⟨entry, hentry, entry.isNamed_self⟩
  obtain ⟨first, hfirst⟩ := Option.isSome_iff_exists.mp hfirst
  have hweight : weightIn? stored entry.prefab = some first.weight := by
    rw [weightIn?, hfirst]
    rfl
  have hafter : merged.weightOf? entry.prefab = (table.weightOf? entry.prefab).or
      (if leadsUnderName (table.entries ++ stored) entry then some first.weight else none) := by
    rw [HostTable.weightOf?_eq_weightIn?, HostTable.weightOf?_eq_weightIn?, hentries,
      weightIn?_enriched, hweight]
  have hclaimed : merged.weightOf? entry.prefab =
        (table.weightOf? entry.prefab).or (some first.weight) ↔
      (table.weightOf? entry.prefab).isSome = true ∨
        leadsUnderName (table.entries ++ stored) entry = true := by
    rw [hafter]
    cases table.weightOf? entry.prefab <;> simp
  refine ⟨?_, ?_, first.weight, hweight, hafter, hclaimed, fun hnames => ?_⟩
  · rw [hentries, mem_items_newEntries]
    exact List.mem_map_of_mem hmem
  · intro hsome
    rw [HostTable.weightOf?, Option.isSome_map, List.find?_isSome] at hsome
    obtain ⟨other, hother, hnamed⟩ := hsome
    exact List.mem_map.mpr ⟨other, hother, LootEntry.item_of_isNamed hnamed⟩
  · have halike : NamedAlike (table.entries ++ stored) entry :=
      hnames.elim (namedAlike_of_plain _) fun hascii => namedAlike_of_ascii hascii hmem
    exact ⟨mem_items_iff_of_namedAlike fun other hother =>
        halike other (List.mem_append_left _ hother),
      hclaimed.mpr (Or.inr (leadsUnderName_of_namedAlike halike hmem))⟩

end LootStore

/-- A store with two spellings of one item for the crates. -/
def crateStore : LootStore :=
  (({} : LootStore).record "crate" ⟨"rope", 1⟩).record "crate" ⟨"Rope", 2⟩

theorem LootStore.weights_after_merge_rope :
    (crateStore.merge ⟨1, "LootTableCrate", []⟩).1 = .merged 1 1 ∧
      (crateStore.merge ⟨1, "LootTableCrate", []⟩).2.2.weightOf? "GEAR_Rope" = some 1 := by
  have hmerge : (crateStore.merge ⟨1, "LootTableCrate", []⟩).1 = .merged 1 1 := by decide +kernel
  have hstored : crateStore.entries (hostTableKey "LootTableCrate") =
      [⟨"GEAR_rope", 1⟩, ⟨"GEAR_Rope", 2⟩] := by
    decide +kernel
  have hnames : (([] ++ crateStore.entries (hostTableKey "LootTableCrate")).all fun other =>
      other.prefab.toList.all fun c => c.toNat < 0x80) = true := by
    rw [hstored]
    decide +kernel
  have hmem : ⟨"GEAR_Rope", 2⟩ ∈ crateStore.entries (hostTableKey "LootTableCrate") := by
    rw [hstored]
    exact List.mem_cons_of_mem _ (List.mem_singleton_self _)
  obtain ⟨-, -, weight, hweight, -, -, hascii⟩ :=
    crateStore.weights_after_merge ⟨1, "LootTableCrate", []⟩ (by rw [hmerge]; rfl) _ hmem
  simp only [List.all_eq_true, decide_eq_true_eq] at hnames
  refine ⟨hmerge, (hascii (Or.inr hnames)).2.trans ?_⟩
  rw [← hweight, hstored]
  decide +kernel

/-- The table has the item in a spelling that is no other one up to ASCII case, so the merge does
not add the stored entry, and a look-up by its name finds nothing. -/
theorem LootStore.school_item_not_found :
    let store := ({} : LootStore).record "crate" ⟨"école", 5⟩
    let table : HostTable := ⟨1, "LootTableCrate", [⟨"GEAR_École", 5⟩]⟩
    store.entries (hostTableKey table.name) = [⟨"GEAR_école", 5⟩] ∧
      (store.merge table).1 = .merged 0 1 ∧
      table.weightOf? "GEAR_école" = none ∧
      (store.merge table).2.2.weightOf? "GEAR_école" = none := by
  decide +kernel

end LootSpawn
