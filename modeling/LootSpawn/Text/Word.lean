import LootSpawn.Text.WordRanges

/-!
# Word characters

Names are runs of word characters: letters, marks, decimal digits, connectors such as the
underscore, and join controls, of any script.
-/

namespace LootSpawn.Text

/-- The character may stand in a name. -/
def isWord (c : Char) : Bool :=
  if c.toNat < 0x80 then c.isAlphanum || c == '_' else wordRanges.holds c.toNat

end LootSpawn.Text
