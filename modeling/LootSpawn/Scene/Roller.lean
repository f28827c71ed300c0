import LootSpawn.Number.Single
import LootSpawn.Scene.Keystream

/-!
# Seeded rolls

A roll against a percentage takes a number from the keystream, evenly spread from 0 up to but not
including 100, and succeeds when that number is below the chance. Chances that settle the outcome
take nothing from the stream.
-/

namespace LootSpawn

open Number

/-- The number of a word between 0 and 100: its upper 23 bits as a binary fraction, times 100. -/
def percentOfWord (word : UInt32) : Single :=
  Single.ofUnits false ((word >>> 9).toNat <<< 126) * .hundred

/-- Rolls against a chance. Nothing at or below zero succeeds, neither does `nan`, and everything
from 100 on does. -/
def Keystream.roll (stream : Keystream) (chance : Single) : Bool × Keystream :=
  if chance.isNaN || chance.le .zero then (false, stream)
  else if Single.hundred.le chance then (true, stream)
  else
    let (word, stream) := stream.next
    ((percentOfWord word).lt chance, stream)

end LootSpawn
