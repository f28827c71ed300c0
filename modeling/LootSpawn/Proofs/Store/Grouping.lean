import LootSpawn.Proofs.Text.ByteOrder
import Mathlib.Algebra.BigOperators.Group.List.Lemmas
import Mathlib.Algebra.GroupWithZero.Nat
import Mathlib.Data.List.Dedup
import Std.Data.ExtTreeMap

/-!
# Logs grouped by key

Both stores keep lists by key and only ever add a value after those of its key. Such a map is a log
in another form: each key has the values that the log has for it, in the order of the log, no key
has an empty list, and every value of the log is found under exactly one key.
-/

namespace LootSpawn

variable {α : Type}

/-- Adds the values of a log, each after those of its key. -/
def grouped (map : Std.ExtTreeMap String (List α)) (log : List (String × α)) :
    Std.ExtTreeMap String (List α) :=
  log.foldl (fun map entry =>
    map.alter entry.1 fun known => some (known.getD [] ++ [entry.2])) map

/-- The values that a log has for a key, in order. -/
def valuesUnder (key : String) (log : List (String × α)) : List α :=
  (log.filter fun entry => entry.1 = key).map Prod.snd

theorem valuesUnder_cons (key : String) (entry : String × α) (log : List (String × α)) :
    valuesUnder key (entry :: log) =
      if entry.1 = key then entry.2 :: valuesUnder key log else valuesUnder key log := by
  by_cases h : entry.1 = key
  · simp [valuesUnder, h]
  · simp [valuesUnder, h]

theorem length_valuesUnder (key : String) (log : List (String × α)) :
    (valuesUnder key log).length = (log.map Prod.fst).count key := by
  rw [valuesUnder, List.length_map, ← List.countP_eq_length_filter, List.count, List.countP_map]
  rfl

theorem valuesUnder_ne_nil_iff (key : String) (log : List (String × α)) :
    valuesUnder key log ≠ [] ↔ key ∈ log.map Prod.fst := by
  rw [← List.length_pos_iff, length_valuesUnder, List.count_pos_iff]

/-- A key without a value in the log keeps its list, or stays absent. -/
theorem getElem?_grouped (map : Std.ExtTreeMap String (List α)) (log : List (String × α))
    (key : String) :
    (grouped map log)[key]? =
      if valuesUnder key log = [] then map[key]?
      else some (map[key]?.getD [] ++ valuesUnder key log) := by
  induction log generalizing map with
  | nil => rfl
  | cons entry log ih =>
      have hstep := ih (map.alter entry.1 fun known => some (known.getD [] ++ [entry.2]))
      simp only [Std.ExtTreeMap.getElem?_alter, Std.LawfulEqCmp.compare_eq_iff_eq] at hstep
      rw [grouped, List.foldl_cons, ← grouped, hstep, valuesUnder_cons]
      by_cases hkey : entry.1 = key
      · rw [if_pos hkey, if_pos hkey, if_neg (List.cons_ne_nil _ _), hkey]
        split
        next hnil => rw [hnil]
        next => rw [Option.getD_some, List.append_assoc, List.singleton_append]
      · rw [if_neg hkey, if_neg hkey]

theorem getD_grouped (map : Std.ExtTreeMap String (List α)) (log : List (String × α))
    (key : String) :
    (grouped map log)[key]?.getD [] = map[key]?.getD [] ++ valuesUnder key log := by
  rw [getElem?_grouped]
  split
  next hnil => rw [hnil, List.append_nil]
  next => rfl

theorem mem_keys_grouped (log : List (String × α)) (key : String) :
    key ∈ (grouped ∅ log).keys ↔ valuesUnder key log ≠ [] := by
  rw [Std.ExtTreeMap.mem_keys, Std.ExtTreeMap.mem_iff_isSome_getElem?, getElem?_grouped]
  split
  next hnil => simp [hnil]
  next hne => simp [hne]

theorem isEmpty_grouped (log : List (String × α)) :
    (grouped ∅ log).isEmpty = true ↔ log = [] := by
  rw [Std.ExtTreeMap.isEmpty_iff]
  cases log with
  | nil => exact iff_of_true rfl rfl
  | cons entry log =>
      refine iff_of_false ?_ (List.cons_ne_nil entry log)
      intro hempty
      have hkey : entry.1 ∈ (grouped ∅ (entry :: log)).keys := by
        rw [mem_keys_grouped, valuesUnder_cons, if_pos rfl]
        exact List.cons_ne_nil _ _
      rw [hempty] at hkey
      cases hkey

/-- Keys are listed in the order of their bytes, each once. -/
theorem keys_pairwise_bytes (map : Std.ExtTreeMap String (List α)) :
    map.keys.Pairwise fun first second => Text.bytes first < Text.bytes second := by
  apply Std.ExtTreeMap.ordered_keys.imp
  intro first second h
  apply Text.bytes_lt_bytes
  exact compareOfLessAndEq_eq_lt.mp h

theorem values_eq_map_snd (map : Std.ExtTreeMap String (List α)) :
    map.values = map.toList.map Prod.snd := by
  obtain ⟨⟨tree⟩⟩ := map
  induction tree using Quotient.inductionOn with
  | h tree =>
      change tree.values = (Std.DTreeMap.Const.toList tree).map Prod.snd
      obtain ⟨tree, _⟩ := tree
      change tree.values = (Std.DTreeMap.Internal.Impl.Const.toList tree).map Prod.snd
      rw [Std.DTreeMap.Internal.Impl.values_eq_map_snd,
        Std.DTreeMap.Internal.Impl.Const.toList_eq_toListModel_map, List.map_map]
      rfl

theorem length_flatten_values (map : Std.ExtTreeMap String (List α)) :
    map.values.flatten.length = (map.keys.map fun key => (map[key]?.getD []).length).sum := by
  rw [values_eq_map_snd, ← Std.ExtTreeMap.map_fst_toList_eq_keys, List.length_flatten, List.map_map,
    List.map_map]
  congr 1
  apply List.map_congr_left
  rintro ⟨key, values⟩ hmem
  rw [Std.ExtTreeMap.mem_toList_iff_getElem?_eq_some] at hmem
  simp [hmem]

/-- Every value of a log is under one key. -/
theorem length_flatten_values_grouped (log : List (String × α)) :
    (grouped ∅ log).values.flatten.length = log.length := by
  have hperm : (grouped ∅ log).keys.Perm (log.map Prod.fst).dedup := by
    rw [List.perm_ext_iff_of_nodup Std.ExtTreeMap.nodup_keys (List.nodup_dedup _)]
    intro key
    rw [mem_keys_grouped, valuesUnder_ne_nil_iff, List.mem_dedup]
  calc (grouped ∅ log).values.flatten.length
      = ((grouped ∅ log).keys.map fun key => (log.map Prod.fst).count key).sum := by
        rw [length_flatten_values]
        congr 1
        apply List.map_congr_left
        intro key _
        rw [getD_grouped, ← length_valuesUnder]
        simp
    _ = ((log.map Prod.fst).dedup.map fun key => (log.map Prod.fst).count key).sum :=
        (hperm.map _).sum_eq
    _ = log.length := by
        rw [List.sum_map_count_dedup_eq_length, List.length_map]

end LootSpawn
