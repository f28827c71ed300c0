import LootSpawn.Store.Loot
import Mathlib.Data.List.Induction

/-!
# The new entries of a merge

A merge adds the stored entries whose item is new: neither in the table already nor that of an entry
stored earlier. Storing more entries and merging again adds exactly what one merge of all of them
would have added in the end, because an item that was passed over once is in the table by then.
-/

namespace LootSpawn

open Text

/-- The item of an entry, which is its name in any letter case. -/
def LootEntry.item (entry : LootEntry) : String := lowerString entry.prefab

/-- The stored entries whose item is neither in `base` nor that of an entry stored before them, in
order. -/
def newEntries (base stored : List LootEntry) : List LootEntry :=
  (stored.zipIdx.filter fun numbered =>
    numbered.1.item ∉ (base ++ stored.take numbered.2).map LootEntry.item).map Prod.fst

@[simp]
theorem newEntries_nil (base : List LootEntry) : newEntries base [] = [] := rfl

/-- Whether one more stored entry is new depends on everything before it, and it changes nothing for
the others. -/
theorem newEntries_concat (base stored : List LootEntry) (entry : LootEntry) :
    newEntries base (stored ++ [entry]) = newEntries base stored ++
      if entry.item ∈ (base ++ stored).map LootEntry.item then [] else [entry] := by
  -- An entry of `stored` has the same entries before it in the longer list.
  have hearlier : ∀ numbered ∈ stored.zipIdx,
      (stored ++ [entry]).take numbered.2 = stored.take numbered.2 := by
    intro numbered hnumbered
    have hlt := List.snd_lt_of_mem_zipIdx hnumbered
    exact List.take_append_of_le_length (by omega)
  unfold newEntries
  rw [List.zipIdx_append, List.filter_append, List.map_append]
  congr 1
  · congr 1
    apply List.filter_congr
    intro numbered hnumbered
    rw [hearlier numbered hnumbered]
  · rw [List.zipIdx_singleton, Nat.zero_add, List.filter_cons, List.take_left]
    by_cases hmem : entry.item ∈ (base ++ stored).map LootEntry.item
    · rw [if_pos hmem, decide_eq_false (not_not_intro hmem)]
      rfl
    · rw [if_neg hmem, decide_eq_true hmem]
      rfl

namespace LootStore

theorem additions_cons (present : List String) (entry : LootEntry) (rest : List LootEntry) :
    additions present (entry :: rest) =
      if entry.item ∈ present then additions present rest
      else entry :: additions (entry.item :: present) rest :=
  if_congr List.contains_iff_mem rfl rfl

theorem additions_congr {present other : List String} (stored : List LootEntry)
    (h : ∀ name, name ∈ present ↔ name ∈ other) :
    additions present stored = additions other stored := by
  induction stored generalizing present other with
  | nil => rfl
  | cons entry rest ih =>
      have hcons : ∀ name, name ∈ entry.item :: present ↔ name ∈ entry.item :: other := by
        intro name
        rw [List.mem_cons, List.mem_cons, h]
      rw [additions_cons, additions_cons, ih h, ih hcons]
      exact if_congr (h _) rfl rfl

/-- The entries of the first part count as present for the second, whether they were added or
not. -/
theorem additions_append (present : List String) (first second : List LootEntry) :
    additions present (first ++ second) =
      additions present first ++ additions (present ++ first.map LootEntry.item) second := by
  induction first generalizing present with
  | nil => rw [List.nil_append, List.map_nil, List.append_nil, additions, List.nil_append]
  | cons entry rest ih =>
      rw [List.cons_append, additions_cons, additions_cons, ih, ih]
      split
      next hmem =>
        congr 1
        apply additions_congr
        intro name
        simp only [List.map_cons, List.mem_append, List.mem_cons]
        constructor
        · rintro (h | h)
          · exact Or.inl h
          · exact Or.inr (Or.inr h)
        · rintro (h | rfl | h)
          · exact Or.inl h
          · exact Or.inl hmem
          · exact Or.inr h
      next =>
        rw [List.cons_append]
        congr 2
        apply additions_congr
        intro name
        simp only [List.map_cons, List.mem_append, List.mem_cons]
        tauto

theorem additions_eq_newEntries (base stored : List LootEntry) :
    additions (base.map LootEntry.item) stored = newEntries base stored := by
  induction stored using List.reverseRecOn with
  | nil => rfl
  | append_singleton stored entry ih =>
      rw [additions_append, ih, newEntries_concat, ← List.map_append, additions_cons]
      rfl

theorem length_newEntries_le (base stored : List LootEntry) :
    (newEntries base stored).length ≤ stored.length := by
  rw [← additions_eq_newEntries]
  exact length_additions_le _ _

theorem additions_eq_nil {present : List String} {stored : List LootEntry}
    (h : ∀ entry ∈ stored, entry.item ∈ present) : additions present stored = [] := by
  induction stored with
  | nil => rfl
  | cons entry rest ih =>
      rw [additions_cons, if_pos (h entry List.mem_cons_self)]
      exact ih fun other hother => h other (List.mem_cons_of_mem entry hother)

end LootStore

/-- After a merge the table has every item that it had or that is stored, and no other. -/
theorem mem_items_newEntries (base stored : List LootEntry) (name : String) :
    name ∈ (base ++ newEntries base stored).map LootEntry.item ↔
      name ∈ (base ++ stored).map LootEntry.item := by
  induction stored using List.reverseRecOn with
  | nil => rfl
  | append_singleton stored entry ih =>
      have hlast : (base ++ (stored ++ [entry])).map LootEntry.item =
          (base ++ stored).map LootEntry.item ++ [entry.item] := by
        rw [← List.append_assoc, List.map_append]
        rfl
      rw [newEntries_concat, ← List.append_assoc, List.map_append, List.mem_append, ih, hlast,
        List.mem_append]
      split
      next hmem =>
        constructor
        · rintro (h | h)
          · exact Or.inl h
          · cases h
        · rintro (h | h)
          · exact Or.inl h
          · rw [List.mem_singleton.mp h]
            exact Or.inl hmem
      next => rfl

/-- Merging again after more entries were stored adds what one merge of all of them adds beyond the
first merge. -/
theorem newEntries_append (base first second : List LootEntry) :
    newEntries base (first ++ second) =
      newEntries base first ++ newEntries (base ++ newEntries base first) (first ++ second) := by
  have hpresent : ∀ name, name ∈ (base ++ newEntries base first).map LootEntry.item ↔
      name ∈ (base ++ first).map LootEntry.item := mem_items_newEntries base first
  -- All items of `first` are in the table by now, so only `second` is left to be looked at.
  have hfirst : LootStore.additions ((base ++ first).map LootEntry.item) first = [] := by
    apply LootStore.additions_eq_nil
    intro entry hentry
    exact List.mem_map_of_mem (List.mem_append_right base hentry)
  simp only [← LootStore.additions_eq_newEntries] at hpresent ⊢
  rw [LootStore.additions_congr _ hpresent, LootStore.additions_append, LootStore.additions_append,
    hfirst, List.nil_append]
  congr 1
  apply LootStore.additions_congr
  intro name
  simp only [List.map_append, List.mem_append]
  tauto

/-- An entry whose item is there already makes no difference. -/
theorem newEntries_append_cons_of_mem {base first : List LootEntry} {entry : LootEntry}
    (h : entry.item ∈ (base ++ first).map LootEntry.item) (second : List LootEntry) :
    newEntries base (first ++ entry :: second) = newEntries base (first ++ second) := by
  rw [List.map_append] at h
  simp only [← LootStore.additions_eq_newEntries]
  rw [LootStore.additions_append, LootStore.additions_append, LootStore.additions_cons, if_pos h]

/-- The entry that is added for an item is the first one that is stored for it. -/
theorem find?_of_mem_newEntries {base stored : List LootEntry} {entry : LootEntry}
    (h : entry ∈ newEntries base stored) :
    stored.find? (fun other => other.item = entry.item) = some entry := by
  induction stored using List.reverseRecOn with
  | nil => cases h
  | append_singleton stored last ih =>
      rw [newEntries_concat, List.mem_append] at h
      rw [List.find?_append]
      rcases h with h | h
      · rw [ih h]
        rfl
      · split at h
        next => cases h
        next hnew =>
          obtain rfl := List.mem_singleton.mp h
          have hnone : stored.find? (fun other => other.item = entry.item) = none := by
            rw [List.find?_eq_none]
            intro other hother heq
            apply hnew
            rw [← of_decide_eq_true heq]
            exact List.mem_map_of_mem (List.mem_append_right base hother)
          rw [hnone]
          simp

def MergeOutcome.isMerged : MergeOutcome → Bool
  | .merged .. => true
  | _ => false

/-- The table with the new ones of the stored entries after its own. -/
def HostTable.enriched (table : HostTable) (stored : List LootEntry) : HostTable :=
  { table with entries := table.entries ++ newEntries table.entries stored }

@[simp]
theorem HostTable.enriched_nil (table : HostTable) : table.enriched [] = table := by
  simp [enriched]

/-- Enriching a table twice, the second time from a longer list, is enriching it once. -/
theorem HostTable.enriched_enriched (table : HostTable) (first second : List LootEntry) :
    (table.enriched first).enriched (first ++ second) = table.enriched (first ++ second) := by
  simp only [enriched, newEntries_append table.entries first second, List.append_assoc]

namespace LootStore

/-- All that a merge can do: a table that is marked and a table for which nothing is stored stay as
they are and leave the store as it is, and any other is enriched and marked. -/
theorem merge_cases (store : LootStore) (table : HostTable) :
    (store.isProcessed table.id = true ∧ store.merge table = (.alreadyProcessed, store, table)) ∨
    (store.isProcessed table.id = false ∧ store.tables[hostTableKey table.name]? = none ∧
      store.merge table = (.noEntries, store, table)) ∨
    ∃ stored, store.isProcessed table.id = false ∧
      store.tables[hostTableKey table.name]? = some stored ∧
      store.merge table =
        (.merged (newEntries table.entries stored).length
            (stored.length - (newEntries table.entries stored).length),
          { store with processed := table.id :: store.processed }, table.enriched stored) := by
  have hadded : ∀ stored,
      additions (table.entries.map fun entry => lowerString entry.prefab) stored =
        newEntries table.entries stored := additions_eq_newEntries table.entries
  cases hprocessed : store.isProcessed table.id with
  | true =>
      refine Or.inl ⟨rfl, ?_⟩
      rw [merge, if_pos hprocessed]
  | false =>
      right
      simp only [merge, hprocessed, Bool.false_eq_true, if_false, hadded]
      cases hstored : store.tables[hostTableKey table.name]? with
      | none => exact Or.inl ⟨trivial, rfl, rfl⟩
      | some stored => exact Or.inr ⟨stored, trivial, rfl, rfl⟩

/-- The counts of a merge are by how much the table has grown, and how many stored entries were left
out. -/
theorem counts_merge (store : LootStore) (table : HostTable) {added skipped : Nat}
    (h : (store.merge table).1 = .merged added skipped) :
    (store.merge table).2.2.entries.length = table.entries.length + added ∧
      added + skipped = (store.entries (hostTableKey table.name)).length := by
  rcases store.merge_cases table with ⟨-, hmerge⟩ | ⟨-, -, hmerge⟩ | ⟨stored, -, hstored, hmerge⟩
  · rw [hmerge] at h
    cases h
  · rw [hmerge] at h
    cases h
  · have hle := length_newEntries_le table.entries stored
    rw [hmerge] at h ⊢
    cases h
    rw [entries, hstored, Option.getD_some]
    constructor
    · exact List.length_append
    · omega

end LootStore

end LootSpawn
