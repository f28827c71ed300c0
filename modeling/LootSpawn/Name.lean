import LootSpawn.Text.AsciiCase
import LootSpawn.Text.Lowercase

/-!
# Names and keys

Scenes and loot tables are stored under lower-case keys, so that every spelling of a name finds the
same content. Loot tables are named after what they belong to, and their keys follow the naming of
the host. Items carry a common prefix, which is added where it is missing.
-/

namespace LootSpawn

open Text

/-- The prefix of item names unless configured otherwise. -/
def defaultItemPrefix : String := "GEAR_"

/-- The key of a scene. -/
def sceneKey (name : String) : String := lowerString name

/-- The key under which a host's own table is looked up. -/
def hostTableKey (name : String) : String := lowerString name

/-- The key of a table as authors name it: a name that starts with `loot` is complete, one that
starts with `cargo` lacks `loot`, and any other lacks `loottable`. -/
def lootTableKey (name : String) : String :=
  let key := lower name.toList
  if "loot".toList.isPrefixOf key then String.ofList key
  else if "cargo".toList.isPrefixOf key then String.ofList ("loot".toList ++ key)
  else String.ofList ("loottable".toList ++ key)

/-- The name of an item with the prefix in its own spelling. A prefix that is there already, in any
ASCII case, is replaced. -/
def itemName (raw itemPrefix : String) : String :=
  match afterAsciiCase? itemPrefix.toList raw.toList with
  | some rest => itemPrefix ++ String.ofList rest
  | none => itemPrefix ++ raw

/-- The scene is no gameplay scene: it has no name, or its name is listed, up to ASCII case. -/
def isNonGameScene (name : String) (nonGameScenes : List String) : Bool :=
  name.isEmpty || nonGameScenes.any fun listed => sameAsciiCase listed.toList name.toList

end LootSpawn
