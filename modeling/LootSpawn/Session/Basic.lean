import LootSpawn.Config
import LootSpawn.FileTree
import LootSpawn.Scene.Resolver
import LootSpawn.Source.Reading
import LootSpawn.Store.Loot
import LootSpawn.Store.Spawns

/-!
# Sessions

A session holds a configuration and the two stores. Sources are loaded from texts, files and
directories. A source that is at fault leaves no trace, and loading several sources stops at the
first one that fails and keeps those before it. The remaining operations answer events of the host.
-/

namespace LootSpawn

/-- Why a configuration cannot be had. -/
inductive ConfigError where
  | file (error : FileError)
  | malformed
  deriving DecidableEq, Repr

def ConfigError.message : ConfigError → String
  | .file error => s!"IO error: {error.message}"
  | .malformed => "RON deserialization error"

/-- Why something cannot be loaded. -/
inductive LoadError where
  | read (origin : String) (error : ReadError)
  | config (error : ConfigError)
  | file (error : FileError)
  deriving DecidableEq, Repr

def LoadError.message : LoadError → String
  | .read origin error => s!"{origin}: {error.message}"
  | .config error => s!"config error: {error.message}"
  | .file error => s!"IO error: {error.message}"

/-- How much was loaded. -/
structure LoadCount where
  spawns : Nat := 0
  lootEntries : Nat := 0
  deriving DecidableEq, Repr

instance : Add LoadCount :=
  ⟨fun a b => ⟨a.spawns + b.spawns, a.lootEntries + b.lootEntries⟩⟩

/-- The number of spawns and loot entries of a source. -/
def Source.loadCount (source : Source) : LoadCount :=
  ⟨source.spawns.length, source.lootEntries.length⟩

/-- A text with the name of where it comes from. -/
structure NamedText where
  origin : String
  content : String
  deriving DecidableEq, Repr

/-- Reads a configuration from a file. -/
def Config.ofFile (tree : FileTree) (path : String) : Except ConfigError Config :=
  match tree.readText path with
  | .error error => .error (.file error)
  | .ok text =>
      match Config.ofText? text with
      | some config => .ok config
      | none => .error .malformed

/-- Something to load. -/
inductive Load where
  | text (source : NamedText)
  | file (path : String)
  | directory (path : String)
  deriving DecidableEq, Repr

namespace Load

/-- The text of a file, named by its path. -/
def fileText (tree : FileTree) (path : String) : Except LoadError NamedText :=
  match tree.readText path with
  | .ok content => .ok ⟨path, content⟩
  | .error error => .error (.file error)

/-- The texts to load, in order, with an error in the place of each text that cannot be had. A
directory stands for its files with the given extension. -/
def texts (tree : FileTree) (extension : String) : Load → List (Except LoadError NamedText)
  | .text source => [.ok source]
  | .file path => [fileText tree path]
  | .directory path =>
      match tree.list path extension with
      | .ok paths => paths.map (fileText tree)
      | .error error => [.error (.file error)]

end Load

/-- A configuration and the content loaded under it. -/
structure Session where
  config : Config
  spawns : SpawnStore
  loot : LootStore

namespace Session

/-- A session without content. -/
def start (config : Config) : Session := ⟨config, {}, { itemPrefix := config.itemPrefix }⟩

/-- Loads an accepted source. -/
def commit (session : Session) (source : Source) : Session :=
  { session with spawns := session.spawns.load source, loot := session.loot.load source }

/-- Loads a text. A text that is at fault changes nothing. -/
def loadText (session : Session) (text : NamedText) : Session × Except LoadError LoadCount :=
  match Source.ofText text.content with
  | .ok source => (session.commit source, .ok source.loadCount)
  | .error error => (session, .error (.read text.origin error))

/-- Loads texts in order up to the first one that fails. -/
def loadTexts (session : Session) :
    List (Except LoadError NamedText) → Session × Except LoadError LoadCount
  | [] => (session, .ok {})
  | .error error :: _ => (session, .error error)
  | .ok text :: rest =>
      match session.loadText text with
      | (session, .error error) => (session, .error error)
      | (session, .ok count) =>
          let (session, more) := session.loadTexts rest
          (session, more.map (count + ·))

/-- Loads a text, a file or a directory. -/
def load (session : Session) (tree : FileTree) (input : Load) :
    Session × Except LoadError LoadCount :=
  session.loadTexts (input.texts tree session.config.fileExtension)

/-- Adds a spawn without a source. -/
def addSpawn (session : Session) (scene : String) (directive : Directive) : Session :=
  { session with spawns := session.spawns.record scene directive }

/-- Adds a loot entry without a source. -/
def addLoot (session : Session) (table : String) (entry : LootEntry) : Session :=
  { session with loot := session.loot.record table entry }

/-- A fresh load: every host table may be merged again. -/
def freshLoad (session : Session) : Session :=
  { session with loot := session.loot.clearProcessed }

/-- A host table is about to be drawn from. -/
def populate (session : Session) (table : HostTable) : MergeOutcome × Session × HostTable :=
  let (outcome, loot, table) := session.loot.merge table
  (outcome, { session with loot }, table)

/-- A host table, if there is one, is about to be drawn from. -/
def populate? (session : Session) :
    Option HostTable → MergeOutcome × Session × Option HostTable
  | none => (.noTable, session, none)
  | some table =>
      let (outcome, session, table) := session.populate table
      (outcome, session, some table)

/-- A container is about to be filled from tables, some of which may be absent. The present ones
are merged in order, and only they have an outcome. -/
def populateAll (session : Session) :
    List (Option HostTable) → List MergeOutcome × Session × List (Option HostTable)
  | [] => ([], session, [])
  | none :: rest =>
      let (outcomes, session, tables) := session.populateAll rest
      (outcomes, session, none :: tables)
  | some table :: rest =>
      let (outcome, session, table) := session.populate table
      let (outcomes, session, tables) := session.populateAll rest
      (outcome :: outcomes, session, some table :: tables)

/-- A resolver with the session's configuration. -/
def resolver {σ τ ρ Asset Handle : Type} (session : Session) (host : SceneHost σ Asset Handle)
    (scaler : Scaler τ) (random : RandomSource ρ) : Resolver σ τ ρ Asset Handle :=
  ⟨host, scaler, random, session.config.itemPrefix, session.config.nonGameScenes⟩

/-- A resolver that scales chances by the configured multipliers. -/
def defaultResolver {σ ρ Asset Handle : Type} (session : Session)
    (host : SceneHost σ Asset Handle) (random : RandomSource ρ) :
    Resolver σ Unit ρ Asset Handle :=
  session.resolver host (.ofScaling (ChanceScaler.ofConfig session.config).adjust) random

end Session

/-- What a session is built from. A configuration file takes precedence over a given
configuration. -/
structure Setup where
  config : Option Config := none
  configPath : Option String := none
  directories : List String := []
  files : List String := []
  texts : List NamedText := []

namespace Setup

/-- The configuration to build with. -/
def chosenConfig (setup : Setup) (tree : FileTree) : Except LoadError Config :=
  match setup.configPath with
  | some path => (Config.ofFile tree path).mapError .config
  | none => .ok (setup.config.getD {})

/-- What is loaded, in order: directories, files, texts. -/
def loads (setup : Setup) : List Load :=
  setup.directories.map .directory ++ setup.files.map .file ++ setup.texts.map .text

/-- The texts that are loaded under a configuration. -/
def inputs (setup : Setup) (tree : FileTree) (config : Config) :
    List (Except LoadError NamedText) :=
  setup.loads.flatMap (Load.texts tree config.fileExtension)

/-- Builds a session; nothing is built unless everything can be loaded. -/
def build (setup : Setup) (tree : FileTree) : Except LoadError Session := do
  let config ← setup.chosenConfig tree
  let (session, result) := (Session.start config).loadTexts (setup.inputs tree config)
  result.map fun _ => session

end Setup

end LootSpawn
