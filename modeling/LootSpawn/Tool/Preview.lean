import LootSpawn.Number.Decimal
import LootSpawn.Number.Percent
import LootSpawn.Scene.Roller
import LootSpawn.Store.Document
import LootSpawn.Text.Blank
import LootSpawn.Tool.Basic

/-!
# The preview shell

An interactive shell for trying spawn files without a game. Every asset exists, a placed item is its
asset name, and rolls are seeded. A scene may be resolved several times in a row, and its items are
counted over all runs. How often it was resolved is counted in 32 bits.
-/

namespace LootSpawn.Tool.Preview

open Number Text

def usage : String :=
  "Usage: spawn_preview --spawns <path> [--config <spawner.ron>] [--seed <n>]\n"

def help : String := String.join [
  "Commands:\n",
  "  scene <name> [runs]  resolve a scene, averaging over runs\n",
  "  seed <n>             set RNG seed\n",
  "  scenes               list scenes with spawn entries\n",
  "  tables               list loot tables and their entries\n",
  "  dump                 print both registries as RON\n",
  "  help                 list commands\n",
  "  quit                 exit\n"]

/-- A natural number of 64 bits, with an optional plus in front. -/
def word64? (text : String) : Option UInt64 :=
  let digits := match text.toList with
    | '+' :: rest => rest
    | cs => cs
  (natural? digits).bind fun value =>
    if value < UInt64.size then some (UInt64.ofNat value) else none

/-! ## Arguments -/

/-- The arguments of the shell. -/
structure Options where
  spawns : Option String := none
  config : Option String := none
  seed : UInt64 := 42

/-- Reads the arguments, of which the last of a kind counts. A seed that is no number is 42. The
outcome is an error for an argument that is unknown or lacks its value. -/
def parseArgs (options : Options) : List String → Except String Options
  | [] => .ok options
  | "--spawns" :: path :: rest => parseArgs { options with spawns := some path } rest
  | "--config" :: path :: rest => parseArgs { options with config := some path } rest
  | "--seed" :: value :: rest => parseArgs { options with seed := (word64? value).getD 42 } rest
  | unknown :: _ => .error unknown

/-- What the session is built from. -/
def setup (tree : FileTree) (path : String) (config : Option String) : Setup :=
  if tree.isDirectory path then { configPath := config, directories := [path] }
  else { configPath := config, files := [path] }

/-! ## Commands -/

/-- A host that has every asset and returns its name. -/
def host : SceneHost Unit String String where
  find _ name := (some name, ())
  place _ asset _ _ := (asset, ())

def random : RandomSource Keystream := ⟨Keystream.roll⟩

/-- The state of the shell: the session and the rolls to come. How its counter overflows is settled
from the start. -/
structure Shell where
  overflow : Overflow
  session : Session
  stream : Keystream

/-- A command. -/
inductive Command where
  | quit
  | help
  | seed (value : Option UInt64)
  | scenes
  | tables
  | dump
  | scene (name : String) (runs : Nat)
  | sceneUsage
  | unknown (word : String)
  | blank
  deriving DecidableEq, Repr

/-- The number of runs; one unless a positive number is given. -/
def runCount (text : Option String) : Nat :=
  match text.bind word64? with
  | some runs => max runs.toNat 1
  | none => 1

/-- Reads a command from the words of a line. The first word may be in any case. -/
def Command.ofWords : List String → Command
  | [] => .blank
  | first :: arguments =>
      match lowerString first with
      | "quit" | "exit" | "q" => .quit
      | "help" | "h" | "?" => .help
      | "seed" => .seed (arguments.head?.bind word64?)
      | "scenes" => .scenes
      | "tables" => .tables
      | "dump" => .dump
      | "scene" =>
          match arguments with
          | [] => .sceneUsage
          | name :: rest => .scene name (runCount rest.head?)
      | other => .unknown other

/-- Reads a command line. -/
def Command.ofLine (line : String) : Command :=
  .ofWords ((words line.toList).map String.ofList)

/-- Item counts by name. -/
abbrev Counts := Std.ExtTreeMap String Nat

/-- Counts the items of a report. -/
def countPlaced (counts : Counts) (report : Report String) : Counts :=
  report.placed.foldl (fun counts name => counts.alter name fun n => some (n.getD 0 + 1)) counts

/-- What there is after some activations of a scene: how many of them were resolved, the counts over
all of them, and the rolls that are left. -/
structure Rehearsal where
  resolved : Int32 := 0
  counts : Counts := ∅
  stream : Keystream

/-- Activates the scene once more, unless the counter breaks the shell off. -/
def Rehearsal.activate (overflow : Overflow) (resolver : Resolver Unit Unit Keystream String String)
    (store : SpawnStore) (scene : String) (rehearsal : Rehearsal) : Option Rehearsal :=
  let (report, stage, counts) :=
    resolver.activate store countPlaced scene ⟨(), (), rehearsal.stream⟩ rehearsal.counts
  let resolved? :=
    if report.isSome then overflow.next? rehearsal.resolved else some rehearsal.resolved
  resolved?.map fun resolved => ⟨resolved, counts, stage.random⟩

/-- Activates a scene a number of times. -/
def rehearse (overflow : Overflow) (session : Session) (scene : String) (runs : Nat)
    (stream : Keystream) : Option Rehearsal :=
  let resolver := session.defaultResolver host random
  Nat.repeat (·.bind (Rehearsal.activate overflow resolver session.spawns scene)) runs
    (some { stream })

def padRight (width : Nat) (text : String) : String :=
  text ++ String.ofList (List.replicate (width - text.length) ' ')

def padLeft (width : Nat) (text : String) : String :=
  String.ofList (List.replicate (width - text.length) ' ') ++ text

/-- The line for an item: its name, its count and the count per run as a percentage. -/
def countLine (runs : Nat) (name : String) (count : Nat) : String :=
  s!"  {padRight 32 name} {padLeft 5 (toString count)}  ({percentText count runs}%)\n"

/-- The answer to a scene command. -/
def sceneText (scene : String) (runs : Nat) (rehearsal : Rehearsal) : String :=
  if rehearsal.resolved = 0 then
    s!"'{scene}' is not a gameplay scene; nothing spawns there.\n"
  else
    let lines := rehearsal.counts.toList.map fun (name, count) => countLine runs name count
    let body := if lines.isEmpty then "(nothing spawned)\n" else String.join lines
    s!"\n--- {scene} over {runs} run(s) ---\n" ++ body ++ "--- End ---\n\n"

/-- The lines that list the loot tables. -/
def tablesText (store : LootStore) : String :=
  String.join (store.keys.map fun key =>
    s!"  {key}\n" ++ String.join ((store.entries key).map fun entry =>
      s!"    {entry.prefab} (w={entry.weight.toNat})\n"))

/-- What a command leads to. -/
inductive Next where
  | goesOn (shell : Shell)
  | ends
  | breaksOff

/-- Carries out a command: what it leads to, and what is written. -/
def Shell.step (shell : Shell) : Command → Next × String
  | .quit => (.ends, "Goodbye.\n")
  | .help => (.goesOn shell, Preview.help)
  | .seed (some value) =>
      (.goesOn { shell with stream := Keystream.ofSeed value }, s!"Seed set to {value.toNat}\n")
  | .seed none => (.goesOn shell, "Usage: seed <n>\n")
  | .scenes =>
      (.goesOn shell, String.join (shell.session.spawns.keys.map fun key => s!"  {key}\n"))
  | .tables => (.goesOn shell, tablesText shell.session.loot)
  | .dump =>
      (.goesOn shell,
        shell.session.spawns.toText ++ "\n" ++ shell.session.loot.toText ++ "\n")
  | .scene name runs =>
      match rehearse shell.overflow shell.session name runs shell.stream with
      | some rehearsal =>
          (.goesOn { shell with stream := rehearsal.stream }, sceneText name runs rehearsal)
      | none => (.breaksOff, "")
  | .sceneUsage => (.goesOn shell, "Usage: scene <name> [runs]\n")
  | .unknown word => (.goesOn shell, s!"Unknown command: {word}. Type 'help'.\n")
  | .blank => (.goesOn shell, "")

def prompt : String := "spawns> "

/-- Carries out lines up to the one that ends the shell or breaks it off, or to the end of the
input. -/
def Shell.run (shell : Shell) : List String → Result
  | [] => { out := prompt }
  | line :: rest =>
      match shell.step (Command.ofLine line) with
      | (.goesOn next, answer) => (next.run rest).after (prompt ++ answer)
      | (.ends, answer) => { out := prompt ++ answer }
      | (.breaksOff, answer) => Result.broken.after (prompt ++ answer)

/-- The lines of the standard input: each ends with a line feed, the last one perhaps with the end
of the input. -/
def inputLines (input : String) : List String :=
  (lines input.toList).map String.ofList

/-- What the shell says when it starts. -/
def greeting (session : Session) (seed : UInt64) : String :=
  s!"Loaded {session.spawns.size} spawn entries in {session.spawns.keys.length} scenes\n" ++
    s!"Seed: {seed.toNat}\nType 'help' for commands.\n\n"

/-- Starts the shell, or ends with an error if the arguments are wrong or nothing can be loaded. -/
def start (overflow : Overflow) (args : List String) (tree : FileTree) :
    Except Result (Shell × String) :=
  if wantsHelp args then .error { out := usage }
  else match parseArgs {} args with
    | .error unknown => .error { code := 1, out := usage, err := s!"Unknown argument: {unknown}\n" }
    | .ok options =>
        match options.spawns with
        | none => .error { code := 1, out := usage, err := "Error: --spawns is required\n" }
        | some path =>
            match (setup tree path options.config).build tree with
            | .error error => .error { code := 1, err := complaint "ERROR: " error }
            | .ok session =>
                .ok (⟨overflow, session, Keystream.ofSeed options.seed⟩,
                  greeting session options.seed)

/-- Runs the shell on its whole input. -/
def run (overflow : Overflow) (args : List String) (tree : FileTree) (input : String) : Result :=
  match start overflow args tree with
  | .error result => result
  | .ok (shell, text) => (shell.run (inputLines input)).after text

end LootSpawn.Tool.Preview
