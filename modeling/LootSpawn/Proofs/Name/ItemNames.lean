import LootSpawn.Name
import LootSpawn.Proofs.Line.ClauseForm
import LootSpawn.Proofs.Text.AsciiSpelling

/-!
# Items with and without their prefix

The name of an item is written with the common prefix, in any ASCII case, or without it. In a line
it is put in lower case first. The prefix in its own spelling, followed by what comes after it, is
the name either way.
-/

namespace LootSpawn

open Text

theorem isWord_toLower_ascii_iff : ∀ code < 0x80,
    isWord (Char.ofNat code).toLower = isWord (Char.ofNat code) := by
  decide

theorem itemName_of_start {start : List Char} {itemPrefix : String}
    (h : sameAsciiCase start itemPrefix.toList = true) (rest : List Char) :
    itemName (String.ofList (start ++ rest)) itemPrefix = itemPrefix ++ String.ofList rest := by
  have hafter : afterAsciiCase? itemPrefix.toList (start ++ rest) = some rest :=
    (afterAsciiCase?_eq_some_iff _ _ _).mpr ⟨start, rfl, h⟩
  rw [itemName, String.toList_ofList, hafter]

theorem itemName_of_bare {raw : List Char} {itemPrefix : String}
    (h : ∀ start, start <+: raw → sameAsciiCase start itemPrefix.toList = false) :
    itemName (String.ofList raw) itemPrefix = itemPrefix ++ String.ofList raw := by
  have hafter : afterAsciiCase? itemPrefix.toList raw = none := by
    by_contra hsome
    obtain ⟨rest, hrest⟩ := Option.ne_none_iff_exists'.mp hsome
    obtain ⟨start, rfl, hsame⟩ := (afterAsciiCase?_eq_some_iff _ _ _).mp hrest
    rw [h start (List.prefix_append start rest)] at hsame
    cases hsame
  rw [itemName, String.toList_ofList, hafter]

/-- An item that may be written with a prefix: a spelling of the prefix, which is made of word
characters of ASCII, and a name in lower case that does not start with the prefix itself. -/
structure PrefixedItem (itemPrefix : String) where
  spelling : List Char
  stem : Name
  plain : ∀ c ∈ itemPrefix.toList, c.toNat < 0x80 ∧ isWord c = true
  same : sameAsciiCase spelling itemPrefix.toList = true
  settled : lower stem = stem
  bare : ∀ start, start <+: stem.val → sameAsciiCase start itemPrefix.toList = false

namespace PrefixedItem

variable {itemPrefix : String} (item : PrefixedItem itemPrefix)

/-- The name of the item: the prefix in its own spelling and the stem. -/
def name : String := itemPrefix ++ String.ofList item.stem

/-- What may stand before the stem: a spelling of the prefix, or nothing. -/
def starts : List (List Char) := [item.spelling, []]

theorem plain_spelling : ∀ c ∈ item.spelling, c.toNat < 0x80 ∧ isWord c = true := by
  intro c hc
  have hmem : c.toLower ∈ itemPrefix.toList.map Char.toLower := by
    rw [← (sameAsciiCase_iff _ _).mp item.same]
    exact List.mem_map_of_mem hc
  obtain ⟨d, hd, hlower⟩ := List.mem_map.mp hmem
  obtain ⟨hascii, hword⟩ := item.plain d hd
  have hc : c.toNat < 0x80 := by
    by_contra hnot
    apply hnot
    rw [← toLower_of_not_ascii hnot, ← hlower]
    exact (ascii_toLower hascii).1
  refine ⟨hc, ?_⟩
  rw [← Char.ofNat_toNat c, ← isWord_toLower_ascii_iff c.toNat hc, Char.ofNat_toNat, ← hlower,
    ← Char.ofNat_toNat d, isWord_toLower_ascii_iff d.toNat hascii, Char.ofNat_toNat, hword]

theorem plain_start {start : List Char} (h : start ∈ item.starts) :
    ∀ c ∈ start, c.toNat < 0x80 ∧ isWord c = true := by
  rcases List.mem_cons.mp h with rfl | h
  · exact item.plain_spelling
  · obtain rfl := List.mem_singleton.mp h
    exact List.forall_mem_nil _

/-- In whatever way the item is written in a line, it has its name. -/
theorem itemName_eq {start : List Char} (h : start ∈ item.starts) :
    itemName (String.ofList (start.map Char.toLower ++ item.stem)) itemPrefix = item.name := by
  rcases List.mem_cons.mp h with rfl | h
  · apply itemName_of_start
    have hsame := (sameAsciiCase_iff _ _).mp item.same
    have htwice : item.spelling.map (Char.toLower ∘ Char.toLower) =
        item.spelling.map Char.toLower :=
      List.map_congr_left fun c hc => (ascii_toLower (item.plain_spelling c hc).1).2
    rw [sameAsciiCase_iff, List.map_map, htwice, hsame]
  · obtain rfl := List.mem_singleton.mp h
    exact itemName_of_bare item.bare

end PrefixedItem

end LootSpawn
