import LootSpawn.Literal.Basic
import LootSpawn.Literal.Token

/-!
# Reading values out of literals

Readers for the kinds of value that documents hold. A record may be preceded by the name of its
type and no other. A field that is given twice is an error, and fields that nobody asks for are
ignored.
-/

namespace LootSpawn.Literal

open Number

/-- The fields of a record of the given type; empty parentheses are a record without fields. -/
def fields? (typeName : String) : Literal → Option (List (String × Literal))
  | .record name fields => if name.all (· == typeName) then some fields else none
  | .tuple name [] => if name.all (· == typeName) then some [] else none
  | _ => none

/-- Reads a field if it is there. The outcome is nothing if it is given twice or unreadable. -/
def optionalField? {α : Type} (fields : List (String × Literal)) (name : String)
    (read? : Literal → Option α) : Option (Option α) :=
  match fields.filter (·.1 == name) with
  | [] => some none
  | [(_, value)] => (read? value).map some
  | _ => none

/-- Reads a field that has to be there once. -/
def field? {α : Type} (fields : List (String × Literal)) (name : String)
    (read? : Literal → Option α) : Option α :=
  (optionalField? fields name read?).join

def asText? : Literal → Option String
  | .text value => some value
  | _ => none

/-- Reads a list, every item of which is readable. -/
def asList? {α : Type} (read? : Literal → Option α) : Literal → Option (List α)
  | .list items => items.mapM read?
  | _ => none

/-- Reads a map from texts, in the order in which it is written. -/
def asMap? {α : Type} (read? : Literal → Option α) : Literal → Option (List (String × α))
  | .map entries => entries.mapM fun (key, value) => do return (← asText? key, ← read? value)
  | _ => none

/-- Reads a single-precision number. -/
def asSingle? : Literal → Option Single
  | .number "inf" | .number "+inf" => some (.infinite false)
  | .number "-inf" => some (.infinite true)
  | .number "NaN" | .number "+NaN" | .number "-NaN" => some .nan
  | .number token => (Decimal.scientific? token.toList).map (·.toSingle)
  | _ => none

/-- Reads an unsigned integer of 32 bits. -/
def asUInt32? : Literal → Option UInt32
  | .number token =>
      (integerValue? token.toList).bind fun value =>
        if value < UInt32.size then some (UInt32.ofNat value) else none
  | _ => none

end LootSpawn.Literal
