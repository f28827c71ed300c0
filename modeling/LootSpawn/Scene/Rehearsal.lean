import LootSpawn.Config
import LootSpawn.Scene.Resolver
import LootSpawn.Scene.Roller

/-!
# Rehearsals

Stand-ins for the collaborators of a resolution, for trying content without a game. The host has
every asset that is not listed as missing, and both host and random source note what they are asked.
-/

namespace LootSpawn

open Number

/-- An asset where it was placed. -/
structure Placement where
  asset : String
  position : Vector3
  rotation : Vector3
  deriving DecidableEq

/-- The assets that the host lacks, and the names it was asked for, in order. -/
structure RehearsalHost where
  missing : List String := []
  asked : List String := []
  deriving DecidableEq

/-- A host that has every asset but the missing ones. -/
def RehearsalHost.collaborator : SceneHost RehearsalHost String Placement where
  find host name :=
    (if host.missing.contains name then none else some name,
      { host with asked := host.asked ++ [name] })
  place host asset position rotation := (⟨asset, position, rotation⟩, host)

/-- How rolls are decided: from a keystream, by a script of answers that starts over at its end, by
a bound that the chance has to reach, or always in favour. -/
inductive RollRule where
  | seeded (stream : Keystream)
  | script (answers : List Bool) (used : Nat)
  | atLeast (bound : Single)
  | always

/-- Decides a roll. -/
def RollRule.roll (rule : RollRule) (chance : Single) : Bool × RollRule :=
  match rule with
  | .seeded stream =>
      let (success, stream) := stream.roll chance
      (success, .seeded stream)
  | .script answers used => (answers[used % answers.length]?.getD false, .script answers (used + 1))
  | .atLeast bound => (bound.le chance, rule)
  | .always => (true, rule)

/-- The rule for rolls and the chances that were rolled against, in order. -/
structure RehearsalRandom where
  rule : RollRule := .always
  chances : List Single := []

/-- A random source that follows the rule. -/
def RehearsalRandom.collaborator : RandomSource RehearsalRandom where
  roll random chance :=
    let (success, rule) := random.rule.roll chance
    (success, ⟨rule, random.chances ++ [chance]⟩)

/-- How chances are scaled: by the configured multipliers, not at all, by a factor, to one chance
for all, or to nothing for one tag. -/
inductive ScaleRule where
  | configured
  | unchanged
  | times (factor : Single)
  | constant (chance : Single)
  | ban (tag : String)

/-- What a rule makes of chances under a configuration. -/
def ScaleRule.scaling (config : Config) : ScaleRule → Scaling
  | .configured => (ChanceScaler.ofConfig config).adjust
  | .unchanged => fun chance _ => chance
  | .times factor => fun chance _ => chance * factor
  | .constant chance => fun _ _ => chance
  | .ban tag => fun chance directive => if directive.tag == tag then .zero else chance

/-- The resolver of a rehearsal. -/
def rehearsal (config : Config) (scale : ScaleRule) :
    Resolver RehearsalHost Unit RehearsalRandom String Placement :=
  ⟨RehearsalHost.collaborator, .ofScaling (scale.scaling config), RehearsalRandom.collaborator,
    config.itemPrefix, config.nonGameScenes⟩

end LootSpawn
