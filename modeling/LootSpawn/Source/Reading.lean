import LootSpawn.Line.Shape
import LootSpawn.Source.Basic
import LootSpawn.Text.Lines

/-!
# Reading a source

Lines are read in order under a context: the place that was declared last, which is a scene or a
loot table but never both, and the tag that was set last. A new place does not reset the tag.
Reading stops at the first line that is at fault.
-/

namespace LootSpawn

/-- The declaration that governs the lines after it. -/
inductive Place where
  | scene (name : String)
  | lootTable (name : String)
  deriving DecidableEq

/-- What earlier lines have set. -/
structure Context where
  place : Option Place := none
  tag : String := defaultTag
  deriving DecidableEq

namespace Context

/-- The record of a line. A spawn needs a scene and a loot entry a loot table. -/
def record (context : Context) : Line → Except LineFault Record
  | .scene name => .ok (.scene name)
  | .tag name => .ok (.tag name)
  | .spawn prefab position rotation chance =>
      match context.place with
      | some (.scene scene) =>
          .ok (.spawn scene ⟨prefab, position, rotation, chance, context.tag⟩)
      | _ => .error .missingScene
  | .lootTable name => .ok (.lootTable name)
  | .lootEntry entry =>
      match context.place with
      | some (.lootTable table) => .ok (.loot table entry)
      | _ => .error .missingLootTable

/-- The context for the lines after a record. -/
def after (context : Context) : Record → Context
  | .scene name => { context with place := some (.scene name) }
  | .tag name => { context with tag := name }
  | .lootTable name => { context with place := some (.lootTable name) }
  | .spawn .. | .loot .. => context

/-- Reads a line and places it; nothing for a line that says nothing. -/
def readLine (context : Context) (raw : String) : Except LineFault (Option Record) := do
  match ← Line.read raw with
  | none => return none
  | some line => return some (← context.record line)

/-- A record says what its line says. -/
theorem line_of_record {context : Context} {line : Line} {record : Record}
    (h : context.record line = .ok record) : record.line = line := by
  cases line <;> simp only [Context.record] at h
  case scene => cases h; rfl
  case tag => cases h; rfl
  case lootTable => cases h; rfl
  case spawn =>
    split at h
    next => cases h; rfl
    next => cases h
  case lootEntry =>
    split at h
    next => cases h; rfl
    next => cases h

end Context

/-- How far reading came: the records up to the first line at fault, and that line. -/
structure Reading where
  records : List (Numbered Record)
  failure : Option ReadError
  deriving DecidableEq

namespace Reading

/-- Reads lines that follow a context, the first of which has the number `lineNumber`. -/
def readFrom (context : Context) (lineNumber : Nat) : List String → Reading
  | [] => ⟨[], none⟩
  | raw :: rest =>
      match context.readLine raw with
      | .error fault => ⟨[], some ⟨fault, lineNumber, raw⟩⟩
      | .ok none => readFrom context (lineNumber + 1) rest
      | .ok (some record) =>
          let later := readFrom (context.after record) (lineNumber + 1) rest
          ⟨⟨lineNumber, record⟩ :: later.records, later.failure⟩

/-- Reads the lines of a source. -/
def ofLines (lines : List String) : Reading := readFrom {} 1 lines

/-- The accepted source, unless a line was at fault. -/
def result (reading : Reading) : Except ReadError Source :=
  match reading.failure with
  | some error => .error error
  | none => .ok ⟨reading.records⟩

end Reading

namespace Source

/-- Reads a source given by its lines. -/
def ofLines (lines : List String) : Except ReadError Source := (Reading.ofLines lines).result

/-- The lines of a text, without the byte-order mark it may start with. -/
def linesOfText (text : String) : List String :=
  (Text.lines (Text.dropMark text.toList)).map String.ofList

/-- Reads a source held in one text. -/
def ofText (text : String) : Except ReadError Source := ofLines (linesOfText text)

end Source

end LootSpawn
