import LootSpawn.Session.Basic

/-!
# The journal

What a session reports while it works. Every entry is read off what an operation is given and what
comes of it, so the operations themselves do not write.
-/

namespace LootSpawn

inductive LogLevel where
  | trace
  | debug
  | info
  | warn
  deriving DecidableEq, Repr

def LogLevel.label : LogLevel → String
  | .trace => "TRACE"
  | .debug => "DEBUG"
  | .info => "INFO"
  | .warn => "WARN"

/-- An entry of the journal. -/
structure LogEntry where
  level : LogLevel
  message : String
  deriving DecidableEq, Repr

def LogEntry.text (entry : LogEntry) : String := s!"{entry.level.label} {entry.message}"

namespace Journal

def directiveEntry (line : Nat) (kind : String) : LogEntry :=
  ⟨.trace, s!"line {line}: {kind} directive"⟩

/-- The entries for a record: its line, and a tag by its name. -/
def ofRecord (record : Numbered Record) : List LogEntry :=
  directiveEntry record.line record.value.line.kind ::
    match record.value with
    | .tag name => [⟨.info, s!"Tag found while reading spawn file. '{name}'"⟩]
    | _ => []

/-- The entries for the line at fault: a line that only lacks its context is mentioned before it is
rejected. -/
def ofFailure (error : ReadError) : List LogEntry :=
  match error.fault with
  | .missingScene => [directiveEntry error.lineNumber "spawn"]
  | .missingLootTable => [directiveEntry error.lineNumber "loot entry"]
  | _ => []

/-- The entries for reading a source. -/
def ofReading (reading : Reading) : List LogEntry :=
  reading.records.flatMap ofRecord ++ (reading.failure.map ofFailure).getD []

/-- The entry for a source that was loaded. -/
def ofLoaded (origin : String) (count : LoadCount) : LogEntry :=
  ⟨.info, s!"Loaded {count.spawns} spawn entries and {count.lootEntries} loot table entries " ++
    s!"from '{origin}'"⟩

/-- The entries for loading texts, up to the first one that fails. -/
def ofTexts : List (Except LoadError NamedText) → List LogEntry
  | [] => []
  | .error _ :: _ => []
  | .ok text :: rest =>
      let reading := Reading.ofLines (Source.linesOfText text.content)
      ofReading reading ++
        match reading.result with
        | .error _ => []
        | .ok source => ofLoaded text.origin source.loadCount :: ofTexts rest

/-- The entries for building a session. -/
def ofSetup (setup : Setup) (tree : FileTree) : List LogEntry :=
  match setup.chosenConfig tree with
  | .error _ => []
  | .ok config => ofTexts (setup.inputs tree config)

/-- The entry for looking up a scene. -/
def ofLookup (store : SpawnStore) (scene : String) : LogEntry :=
  match store.find? scene with
  | some directives =>
      ⟨.info, s!"Found {directives.length} spawn entries for '{sceneKey scene}'"⟩
  | none => ⟨.info, s!"Could not find any spawn entries for '{sceneKey scene}'"⟩

/-- The warning for a directive without an asset. -/
def ofMissing (scene : String) (directive : Directive) : LogEntry :=
  ⟨.warn, s!"Could not find prefab '{directive.prefab}' to spawn in scene '{scene}'."⟩

/-- The entries for the fate of a directive. -/
def ofFate {Handle : Type} (scene : String) : Directive × Fate Handle → List LogEntry
  | (directive, .missing _) => [ofMissing scene directive]
  | _ => []

section Scenes

variable {σ τ ρ Asset Handle : Type}

/-- The entries for resolving a scene from a store. -/
def ofResolution (resolver : Resolver σ τ ρ Asset Handle) (store : SpawnStore) (scene : String)
    (stage : Stage σ τ ρ) : List LogEntry :=
  let key := sceneKey scene
  ofLookup store key :: (resolver.fates stage (store.directives key)).1.flatMap (ofFate key)

/-- The entry for an activated scene before it is resolved. -/
def ofStart (scene : String) : LogEntry := ⟨.info, s!"Spawning items for scene '{scene}' ..."⟩

/-- The entry for an activated scene on which there is a report. -/
def ofEnd (scene : String) (report : Report Handle) : LogEntry :=
  ⟨.info, s!"Spawned {report.placed.length} items for scene '{scene}'"⟩

/-- The entries for an activated scene; one that is ignored has none. -/
def ofActivation (resolver : Resolver σ τ ρ Asset Handle) (store : SpawnStore) (scene : String)
    (stage : Stage σ τ ρ) : List LogEntry :=
  if resolver.ignores scene then []
  else
    ofStart scene :: ofResolution resolver store scene stage ++
      [ofEnd scene (resolver.resolve store scene stage).1]

end Scenes

/-- The entries for merging into a host table with the given outcome. -/
def ofMerge (table : HostTable) : MergeOutcome → List LogEntry
  | .noTable => []
  | .alreadyProcessed => [⟨.debug, s!"Loot table '{table.name}' already processed"⟩]
  | .noEntries => [⟨.info, s!"No loot table entries stored for '{hostTableKey table.name}'"⟩]
  | .merged added skipped =>
      [⟨.info, s!"Patched loot table '{hostTableKey table.name}': +{added} entries, " ++
        s!"{skipped} already present"⟩]

/-- The entries for a fresh load. -/
def ofFreshLoad (store : LootStore) : List LogEntry :=
  if store.processed.isEmpty then []
  else [⟨.debug, s!"Clearing {store.processed.length} processed loot tables"⟩]

end Journal

end LootSpawn
