import LootSpawn.Line.Basic
import LootSpawn.Line.Clause
import LootSpawn.Number.Decimal
import LootSpawn.Text.Lowercase

/-!
# The five shapes

Each shape is tested on the trimmed, lower-case line. A shape that matches decides the line: it
yields what the line says, or the fault of a number in it.
-/

namespace LootSpawn

open Text Number

/-- The texts of a line with the shape of a spawn. -/
structure SpawnText where
  name : List Char
  position : Option (List Char)
  rotation : Option (List Char)
  chance : Option (List Char)
  deriving DecidableEq, Repr

namespace SpawnText

/-- Reads the chance, which ends the line, or the end of the line. -/
def chance? (cs : List Char) : Option (Option (List Char)) :=
  if cs.isEmpty then some none
  else do
    let value ← afterSeparatedKey? 'c' cs
    return some (← wholeToken? value)

/-- Reads a vector under `key` followed by whatever `next` reads, or else `next` alone. -/
def vectorThen? {α : Type} (key : Char) (next : List Char → Option α) (cs : List Char) :
    Option (Option (List Char) × α) :=
  let present := do
    let value ← afterSeparatedKey? key cs
    (vectorEnds value).findSome? fun (size, rest) =>
      (next rest).map fun following => (some (value.take size), following)
  match present with
  | some result => some result
  | none => (next cs).map fun following => (none, following)

/-- Reads the position, the rotation and the chance, each of them optional. -/
def clauses? :
    List Char → Option (Option (List Char) × Option (List Char) × Option (List Char)) :=
  vectorThen? 'p' (vectorThen? 'r' chance?)

/-- Matches `item = name` with its clauses. -/
def match? (line : List Char) : Option SpawnText := do
  let value ← afterKey? "item".toList line
  let (name, rest) ← name? value
  let (position, rotation, chance) ← clauses? rest
  return ⟨name, position, rotation, chance⟩

end SpawnText

/-- Reads a plain decimal. -/
def readDecimal (token : List Char) : Except LineFault Single :=
  match Decimal.plain? token with
  | some decimal => .ok decimal.toSingle
  | none => .error (.invalidNumber (String.ofList token))

/-- Reads a weight: digits with a value that fits in 32 bits. -/
def readWeight (token : List Char) : Except LineFault UInt32 :=
  match natural? token with
  | some value =>
      if value < UInt32.size then .ok (UInt32.ofNat value)
      else .error (.invalidNumber (String.ofList token))
  | none => .error (.invalidNumber (String.ofList token))

/-- The texts between commas; a text without a comma is one. -/
def splitCommas : List Char → List (List Char)
  | [] => [[]]
  | c :: cs =>
      if c == ',' then [] :: splitCommas cs
      else match splitCommas cs with
        | [] => [[c]]
        | first :: rest => (c :: first) :: rest

/-- Reads a vector of three plain decimals. The count is checked before the numbers. -/
def readVector : Option (List Char) → Except LineFault Vector3
  | none => .ok .zero
  | some value =>
      match (splitCommas value).map trim with
      | [x, y, z] => do
          let x ← readDecimal x
          let y ← readDecimal y
          let z ← readDecimal z
          return ⟨x, y, z⟩
      | components => .error (.vectorArity components.length)

/-- Reads the numbers of a spawn: the chance first, then the position, then the rotation. -/
def SpawnText.toLine (text : SpawnText) : Except LineFault Line := do
  let chance ← match text.chance with
    | some token => readDecimal token
    | none => .ok defaultChance
  let position ← readVector text.position
  let rotation ← readVector text.rotation
  return .spawn (String.ofList text.name) position rotation chance

/-- Matches `key = name`, where the name ends the line. -/
def declaredName? (key line : List Char) : Option String := do
  let value ← afterKey? key line
  let (name, rest) ← name? value
  if rest.isEmpty then some (String.ofList name) else none

/-- Matches `item = name w = weight`: the name and the token of the weight. -/
def lootText? (line : List Char) : Option (List Char × List Char) := do
  let value ← afterKey? "item".toList line
  let (name, rest) ← name? value
  let weight ← afterSeparatedKey? 'w' rest
  return (name, ← wholeToken? weight)

/-- The shapes of a line. -/
inductive Shape where
  | scene
  | tag
  | spawn
  | lootTable
  | lootEntry
  deriving DecidableEq, Repr

namespace Shape

/-- All shapes, in the order in which they are tried. -/
def all : List Shape := [.scene, .tag, .spawn, .lootTable, .lootEntry]

/-- What a line of this shape says; nothing for a line of another shape. -/
def read? (shape : Shape) (line : List Char) : Option (Except LineFault Line) :=
  match shape with
  | .scene => (declaredName? "scene".toList line).map fun name => .ok (.scene name)
  | .tag => (declaredName? "tag".toList line).map fun name => .ok (.tag name)
  | .spawn => (SpawnText.match? line).map SpawnText.toLine
  | .lootTable => (declaredName? "loottable".toList line).map fun name => .ok (.lootTable name)
  | .lootEntry => (lootText? line).map fun (name, weight) =>
      (readWeight weight).map fun weight => .lootEntry ⟨String.ofList name, weight⟩

end Shape

namespace Line

/-- The form in which a line is read: trimmed, in lower case. -/
def normalize (raw : String) : List Char := lower (trim raw.toList)

/-- The line says nothing: it is blank or a comment. -/
def isSilent (line : List Char) : Bool :=
  match line with
  | [] => true
  | c :: _ => c == '#'

/-- Reads a line, trying the shapes in the given order. -/
def readTrying (shapes : List Shape) (raw : String) : Except LineFault (Option Line) :=
  let line := normalize raw
  if isSilent line then .ok none
  else match shapes.findSome? (·.read? line) with
    | some result => result.map some
    | none => .error .unrecognized

/-- Reads a line; blank lines and comments say nothing. -/
def read (raw : String) : Except LineFault (Option Line) := readTrying Shape.all raw

end Line

end LootSpawn
