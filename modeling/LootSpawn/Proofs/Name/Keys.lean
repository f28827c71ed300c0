import LootSpawn.Name
import LootSpawn.Proofs.Text.SettledCase

/-!
# Keys and item names are normal forms

A key is in lower case, so taking the key of a key changes nothing. The key of a loot table starts
with `loot`, and a stored item starts with its prefix in the prefix's own spelling.
-/

namespace LootSpawn

open Text

/-- Looking up a key as a name meets the same scene. -/
@[simp]
theorem sceneKey_sceneKey (name : String) : sceneKey (sceneKey name) = sceneKey name :=
  lowerString_lowerString name

theorem lootTableKey_cases (name : String) :
    "loot".toList <+: lower name.toList ∧
        (lootTableKey name).toList = lower name.toList ∨
      (lootTableKey name).toList = "loot".toList ++ lower name.toList ∨
        (lootTableKey name).toList = "loottable".toList ++ lower name.toList := by
  unfold lootTableKey
  dsimp only
  split
  next hloot => exact Or.inl ⟨List.isPrefixOf_iff_prefix.mp hloot, String.toList_ofList⟩
  next =>
    split
    · exact Or.inr (Or.inl String.toList_ofList)
    · exact Or.inr (Or.inr String.toList_ofList)

theorem isPrefix_lootTableKey (name : String) :
    "loot".toList <+: (lootTableKey name).toList := by
  rcases lootTableKey_cases name with ⟨hloot, hkey⟩ | hkey | hkey
  · rw [hkey]
    exact hloot
  · rw [hkey]
    exact List.prefix_append _ _
  · rw [hkey]
    exact List.prefix_append "loot".toList ("table".toList ++ lower name.toList)

theorem isSettled_loottable : ∀ c ∈ "loottable".toList, IsSettled c := by
  -- Decided along the text, not over all characters there are.
  have hall : ("loottable".toList.all fun c => decide (IsSettled c)) = true := by decide +kernel
  exact fun c hc => of_decide_eq_true (List.all_eq_true.mp hall c hc)

theorem isSettled_of_mem_lootTableKey {name : String} {c : Char}
    (h : c ∈ (lootTableKey name).toList) : IsSettled c := by
  have hloot : c ∈ "loot".toList → IsSettled c := fun hc =>
    isSettled_loottable c (List.mem_append_left "table".toList hc)
  rcases lootTableKey_cases name with ⟨-, hkey⟩ | hkey | hkey
  · rw [hkey] at h
    exact isSettled_of_mem_lower h
  · rw [hkey, List.mem_append] at h
    exact h.elim hloot isSettled_of_mem_lower
  · rw [hkey, List.mem_append] at h
    exact h.elim (isSettled_loottable c) isSettled_of_mem_lower

theorem lowerString_lootTableKey (name : String) :
    lowerString (lootTableKey name) = lootTableKey name := by
  rw [lowerString, lower_of_isSettled fun _ => isSettled_of_mem_lootTableKey, String.ofList_toList]

theorem exists_itemName_eq (raw itemPrefix : String) :
    ∃ rest, itemName raw itemPrefix = itemPrefix ++ rest := by
  rw [itemName]
  split
  next rest _ => exact ⟨String.ofList rest, rfl⟩
  next => exact ⟨raw, rfl⟩

end LootSpawn
