import LootSpawn.Content
import LootSpawn.Literal.Field
import LootSpawn.Literal.Reader
import LootSpawn.Name
import Std.Data.ExtTreeMap

/-!
# Configuration

A configuration names the item prefix, the scenes that are not played, the extension of spawn
files, and the multipliers of spawn chances. Tags are configured in any case and kept in lower case,
as spawn files are read in lower case.
-/

namespace LootSpawn

open Number

/-- A configuration; a field that is not set has its default. -/
structure Config where
  itemPrefix : String := defaultItemPrefix
  nonGameScenes : List String := ["MainMenu", "Boot", "Empty"]
  fileExtension : String := "txt"
  chanceMultiplier : Single := .one
  tagMultipliers : Std.ExtTreeMap String Single := ∅

namespace Config

/-- The multipliers under lower-case tags; of two that meet, the later one stays. -/
def lowerTags (multipliers : List (String × Single)) : Std.ExtTreeMap String Single :=
  Std.ExtTreeMap.ofList (multipliers.map fun (tag, multiplier) =>
    (Text.lowerString tag, multiplier))

/-- Reads a configuration from its literal. -/
def ofLiteral? (literal : Literal) : Option Config := do
  let fields ← literal.fields? "SpawnerConfig"
  let default : Config := {}
  let itemPrefix ← Literal.optionalField? fields "item_prefix" Literal.asText?
  let scenes ← Literal.optionalField? fields "non_game_scenes" (Literal.asList? Literal.asText?)
  let extension ← Literal.optionalField? fields "spawn_file_extension" Literal.asText?
  let multiplier ← Literal.optionalField? fields "chance_multiplier" Literal.asSingle?
  let tags ← Literal.optionalField? fields "tag_multipliers" (Literal.asMap? Literal.asSingle?)
  let written := (Std.ExtTreeMap.ofList (tags.getD []) : Std.ExtTreeMap String Single)
  return {
    itemPrefix := itemPrefix.getD default.itemPrefix
    nonGameScenes := scenes.getD default.nonGameScenes
    fileExtension := extension.getD default.fileExtension
    chanceMultiplier := multiplier.getD default.chanceMultiplier
    tagMultipliers := lowerTags written.toList }

/-- Reads a configuration from a text. -/
def ofText? (text : String) : Option Config := (Literal.ofText? text).bind ofLiteral?

end Config

/-- The configured multipliers, as they are applied to chances. -/
structure ChanceScaler where
  multiplier : Single
  tagMultipliers : Std.ExtTreeMap String Single

namespace ChanceScaler

/-- The scaler of a configuration. Its tags are in lower case even if the configuration was not
read from a text. -/
def ofConfig (config : Config) : ChanceScaler :=
  ⟨config.chanceMultiplier, Config.lowerTags config.tagMultipliers.toList⟩

/-- The multiplier of a tag in any case: one if none is configured. -/
def tagMultiplier (scaler : ChanceScaler) (tag : String) : Single :=
  scaler.tagMultipliers[Text.lowerString tag]?.getD .one

/-- The chance of a directive under the multipliers. -/
def adjust (scaler : ChanceScaler) (declared : Single) (directive : Directive) : Single :=
  declared * scaler.multiplier * scaler.tagMultiplier directive.tag

end ChanceScaler

end LootSpawn
