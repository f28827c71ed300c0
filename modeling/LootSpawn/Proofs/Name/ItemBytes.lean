import LootSpawn.Proofs.Name.ItemNames
import LootSpawn.Proofs.Text.ByteCuts
import Mathlib.Logic.ExistsUnique

/-!
# Item names from bytes

Whether an item has its prefix is found out by cutting the name where a prefix of that many bytes
would end. The name may be shorter, or the cut may fall inside a character; then the prefix is
missing. The name that is made starts with the prefix and stands for what is left of the item, so
items have one name exactly if the same is left of them.
-/

namespace LootSpawn

open Text

/-- The bytes of the name of an item, made of those of the item and of the prefix. The outcome is
nothing if the text behind the prefix is cut where no character starts. -/
def itemBytes? (raw itemPrefix : List UInt8) : Option (List UInt8) :=
  match upTo? raw itemPrefix.length with
  | some start =>
      if sameAsciiCaseBytes start itemPrefix then
        (from? raw itemPrefix.length).map (itemPrefix ++ ·)
      else some (itemPrefix ++ raw)
  | none => some (itemPrefix ++ raw)

/-- What is left of an item without one spelling of the prefix at its start, which it may lack. -/
def IsStem (itemPrefix raw stem : String) : Prop :=
  (∃ start, raw = start ++ stem ∧ sameAsciiCase start.toList itemPrefix.toList = true) ∨
    stem = raw ∧ ∀ start rest, raw = start ++ rest →
      sameAsciiCase start.toList itemPrefix.toList = false

theorem itemName_append {start itemPrefix : String}
    (h : sameAsciiCase start.toList itemPrefix.toList = true) (rest : String) :
    itemName (start ++ rest) itemPrefix = itemPrefix ++ rest := by
  have hname := itemName_of_start h rest.toList
  rwa [← String.toList_append, String.ofList_toList, String.ofList_toList] at hname

/-- The name of an item is the prefix followed by what is left of the item. -/
theorem itemName_of_isStem {itemPrefix raw stem : String} (h : IsStem itemPrefix raw stem) :
    itemName raw itemPrefix = itemPrefix ++ stem := by
  rcases h with ⟨start, rfl, hsame⟩ | ⟨rfl, hbare⟩
  · exact itemName_append hsame stem
  · have hname : itemName (String.ofList stem.toList) itemPrefix =
        itemPrefix ++ String.ofList stem.toList := by
      apply itemName_of_bare
      rintro start ⟨rest, hraw⟩
      have hstart := hbare (String.ofList start) (String.ofList rest)
        (by rw [← String.ofList_append, hraw, String.ofList_toList])
      rwa [String.toList_ofList] at hstart
    rwa [String.ofList_toList] at hname

theorem exists_isStem (itemPrefix raw : String) : ∃ stem, IsStem itemPrefix raw stem := by
  by_cases h : ∃ start rest, raw = start ++ rest ∧
      sameAsciiCase start.toList itemPrefix.toList = true
  · obtain ⟨start, rest, hraw, hsame⟩ := h
    exact ⟨rest, .inl ⟨start, hraw, hsame⟩⟩
  · simp only [not_exists, not_and, Bool.not_eq_true] at h
    exact ⟨raw, .inr ⟨rfl, h⟩⟩

theorem itemName_eq_iff (itemPrefix raw other : String) :
    itemName raw itemPrefix = itemName other itemPrefix ↔
      ∃ stem, IsStem itemPrefix raw stem ∧ IsStem itemPrefix other stem := by
  constructor
  · intro h
    obtain ⟨stem, hstem⟩ := exists_isStem itemPrefix raw
    obtain ⟨stem', hstem'⟩ := exists_isStem itemPrefix other
    rw [itemName_of_isStem hstem, itemName_of_isStem hstem'] at h
    obtain rfl := (String.append_right_inj itemPrefix).mp h
    exact ⟨stem, hstem, hstem'⟩
  · rintro ⟨stem, hstem, hstem'⟩
    rw [itemName_of_isStem hstem, itemName_of_isStem hstem']

/-- The cut behind the prefix is never refused, and the bytes are those of the name. -/
theorem itemBytes?_bytes (raw itemPrefix : String) :
    itemBytes? (bytes raw) (bytes itemPrefix) = some (bytes (itemName raw itemPrefix)) := by
  obtain ⟨stem, hstem⟩ := exists_isStem itemPrefix raw
  rw [itemName_of_isStem hstem, bytes_eq_encode, bytes_eq_encode, bytes_eq_encode,
    String.toList_append, encode_append, itemBytes?]
  rcases hstem with ⟨start, rfl, hsame⟩ | ⟨rfl, hbare⟩
  · have hlength := length_encode_of_sameAsciiCase hsame
    have hhead : upTo? (encode (start.toList ++ stem.toList)) (encode itemPrefix.toList).length =
        some (encode start.toList) :=
      upTo?_encode_eq_some_iff.mpr ⟨start.toList, stem.toList, rfl, hlength, rfl⟩
    have hrest := from?_encode_append start.toList stem.toList
    rw [hlength] at hrest
    rw [String.toList_append, hhead, hrest]
    simp only [sameAsciiCaseBytes_encode, hsame, if_true, Option.map_some]
  · split
    next head hhead =>
      obtain ⟨start, rest, hraw, -, rfl⟩ := upTo?_encode_eq_some_iff.mp hhead
      have hsame := hbare (String.ofList start) (String.ofList rest)
        (by rw [← String.ofList_append, ← hraw, String.ofList_toList])
      rw [String.toList_ofList] at hsame
      rw [sameAsciiCaseBytes_encode, hsame, if_neg Bool.false_ne_true]
    next => rfl

/-- The name of an item is had from any bytes of the item and of the prefix, without a cut inside a
character. It starts with the prefix in the prefix's own spelling, it is its own name, and a
spelling of the prefix at the start of an item stands for the prefix. Of every item one stem is
left, and two items have one name exactly if they have one stem. -/
theorem item_names_are_normal (raw itemPrefix : String) :
    itemBytes? (bytes raw) (bytes itemPrefix) = some (bytes (itemName raw itemPrefix)) ∧
      (∃ rest, itemName raw itemPrefix = itemPrefix ++ rest) ∧
      itemName (itemName raw itemPrefix) itemPrefix = itemName raw itemPrefix ∧
      (∀ start rest, sameAsciiCase start.toList itemPrefix.toList = true →
        itemName (start ++ rest) itemPrefix = itemPrefix ++ rest) ∧
      (∃! stem, IsStem itemPrefix raw stem) ∧
      ∀ other, itemName raw itemPrefix = itemName other itemPrefix ↔
        ∃ stem, IsStem itemPrefix raw stem ∧ IsStem itemPrefix other stem := by
  have hprefix : sameAsciiCase itemPrefix.toList itemPrefix.toList = true :=
    (sameAsciiCase_iff _ _).mpr rfl
  obtain ⟨stem, hstem⟩ := exists_isStem itemPrefix raw
  have hname := itemName_of_isStem hstem
  refine ⟨itemBytes?_bytes raw itemPrefix, ⟨stem, hname⟩, ?_, fun start rest h =>
    itemName_append h rest, ⟨stem, hstem, fun other hother => ?_⟩, itemName_eq_iff itemPrefix raw⟩
  · rw [hname, itemName_append hprefix]
  · have hother := itemName_of_isStem hother
    rw [hname] at hother
    exact ((String.append_right_inj itemPrefix).mp hother).symm

/-- Five bytes end inside a character of one item, are more than another one has, and are a spelling
of the prefix in the last one. -/
theorem item_names_are_normal_gear :
    upTo? (bytes "GEARé") (bytes "GEAR_").length = none ∧
      itemBytes? (bytes "GEARé") (bytes "GEAR_") = some (bytes "GEAR_GEARé") ∧
      itemBytes? (bytes "ge") (bytes "GEAR_") = some (bytes "GEAR_ge") ∧
      itemName "gear_épée" "GEAR_" = "GEAR_épée" := by
  have hcut := (item_names_are_normal "GEARé" "GEAR_").1
  have hshort := (item_names_are_normal "ge" "GEAR_").1
  have hspelled := (item_names_are_normal "gear_épée" "GEAR_").2.2.2.1 "gear_" "épée" (by decide)
  refine ⟨by decide +kernel, hcut.trans ?_, hshort.trans ?_, hspelled⟩
  · decide +kernel
  · decide +kernel

end LootSpawn
