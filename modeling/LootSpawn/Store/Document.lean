import LootSpawn.Literal.Field
import LootSpawn.Literal.Printer
import LootSpawn.Literal.Reader
import LootSpawn.Number.Shortest
import LootSpawn.Store.Loot
import LootSpawn.Store.Spawns

/-!
# Stores as documents

Both stores are written as literals and read back. Keys are taken as they are written, also when
they are not in lower case, and of a key that is written twice the later one stays. The marks of
merged tables are not part of a document.
-/

namespace LootSpawn

open Number

namespace Literal

/-- The literal of a single-precision number; a whole number has a decimal place. -/
def ofSingle (x : Single) : Literal :=
  match x with
  | .finite _ units _ =>
      .number (if units % Single.unitsPerOne = 0 then x.text ++ ".0" else x.text)
  | _ => .number x.text

def ofVector (v : Vector3) : Literal :=
  .record none [("x", ofSingle v.x), ("y", ofSingle v.y), ("z", ofSingle v.z)]

def asVector? (literal : Literal) : Option Vector3 := do
  let fields ← literal.fields? "Vec3"
  return ⟨← field? fields "x" asSingle?, ← field? fields "y" asSingle?,
    ← field? fields "z" asSingle?⟩

def ofDirective (d : Directive) : Literal :=
  .record none [("prefab_name", .text d.prefab), ("position", ofVector d.position),
    ("rotation_euler", ofVector d.rotation), ("spawn_chance", ofSingle d.chance),
    ("tag", .text d.tag)]

def asDirective? (literal : Literal) : Option Directive := do
  let fields ← literal.fields? "SpawnDirective"
  return {
    prefab := ← field? fields "prefab_name" asText?
    position := ← field? fields "position" asVector?
    rotation := ← field? fields "rotation_euler" asVector?
    chance := ← field? fields "spawn_chance" asSingle?
    tag := ← field? fields "tag" asText? }

def ofLootEntry (entry : LootEntry) : Literal :=
  .record none [("prefab_name", .text entry.prefab),
    ("weight", .number (toString entry.weight.toNat))]

def asLootEntry? (literal : Literal) : Option LootEntry := do
  let fields ← literal.fields? "LootTableEntry"
  return ⟨← field? fields "prefab_name" asText?, ← field? fields "weight" asUInt32?⟩

/-- The literal of lists under keys, in the order of the keys. -/
def ofStore {α : Type} (ofItem : α → Literal)
    (store : Std.ExtTreeMap String (List α)) : Literal :=
  .map (store.toList.map fun (key, items) => (.text key, .list (items.map ofItem)))

def asStore? {α : Type} (asItem? : Literal → Option α) (literal : Literal) :
    Option (Std.ExtTreeMap String (List α)) :=
  (asMap? (asList? asItem?) literal).map fun lists => Std.ExtTreeMap.ofList lists

end Literal

namespace SpawnStore

def toLiteral (store : SpawnStore) : Literal :=
  .record none [("scenes", Literal.ofStore Literal.ofDirective store.scenes)]

def ofLiteral? (literal : Literal) : Option SpawnStore := do
  let fields ← literal.fields? "SpawnRegistry"
  return ⟨← Literal.field? fields "scenes" (Literal.asStore? Literal.asDirective?)⟩

/-- The document of a store. -/
def toText (store : SpawnStore) : String := store.toLiteral.toText

/-- Reads a store from its document. -/
def ofText? (text : String) : Option SpawnStore := (Literal.ofText? text).bind ofLiteral?

end SpawnStore

namespace LootStore

def toLiteral (store : LootStore) : Literal :=
  .record none [("item_prefix", .text store.itemPrefix),
    ("tables", Literal.ofStore Literal.ofLootEntry store.tables)]

def ofLiteral? (literal : Literal) : Option LootStore := do
  let fields ← literal.fields? "LootTableRegistry"
  return {
    itemPrefix := ← Literal.field? fields "item_prefix" Literal.asText?
    tables := ← Literal.field? fields "tables" (Literal.asStore? Literal.asLootEntry?) }

/-- The document of a store. -/
def toText (store : LootStore) : String := store.toLiteral.toText

/-- Reads a store from its document. -/
def ofText? (text : String) : Option LootStore := (Literal.ofText? text).bind ofLiteral?

end LootStore

end LootSpawn
