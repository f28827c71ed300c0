import LootSpawn.Literal.Basic
import LootSpawn.Text.Quoted

/-!
# Writing literals

A literal is written with every field, item and entry on a line of its own, indented by four spaces
for each bracket around it and followed by a comma. Empty brackets stay on one line.
-/

namespace LootSpawn.Literal

/-- The start of a line inside `depth` brackets. -/
def newline (depth : Nat) : List Char := '\n' :: List.replicate (4 * depth) ' '

/-- Puts lines, each with its line break in front, between brackets. -/
def bracketed (opening closing : Char) (depth : Nat) (lines : List Char) : List Char :=
  if lines.isEmpty then [opening, closing]
  else opening :: lines ++ newline depth ++ [closing]

mutual

/-- The text of a literal that stands inside `depth` brackets. -/
def write (depth : Nat) : Literal → List Char
  | .text value => Text.quote value.toList
  | .character value => '\x27' :: Text.quoteChar value ++ ['\x27']
  | .number token => token.toList
  | .word name => name.toList
  | .list items => bracketed '[' ']' depth (writeItems (depth + 1) items)
  | .map entries => bracketed '\x7b' '\x7d' depth (writeEntries (depth + 1) entries)
  | .tuple typeName items =>
      (typeName.getD "").toList ++ bracketed '(' ')' depth (writeItems (depth + 1) items)
  | .record typeName fields =>
      (typeName.getD "").toList ++ bracketed '(' ')' depth (writeFields (depth + 1) fields)

/-- The lines of items. -/
def writeItems (depth : Nat) : List Literal → List Char
  | [] => []
  | item :: rest => newline depth ++ write depth item ++ [','] ++ writeItems depth rest

/-- The lines of the entries of a map. -/
def writeEntries (depth : Nat) : List (Literal × Literal) → List Char
  | [] => []
  | (key, value) :: rest =>
      newline depth ++ write depth key ++ [':', ' '] ++ write depth value ++ [','] ++
        writeEntries depth rest

/-- The lines of the fields of a record. -/
def writeFields (depth : Nat) : List (String × Literal) → List Char
  | [] => []
  | (name, value) :: rest =>
      newline depth ++ name.toList ++ [':', ' '] ++ write depth value ++ [','] ++
        writeFields depth rest

end

/-- The text of a document. -/
def toText (literal : Literal) : String := String.ofList (write 0 literal)

end LootSpawn.Literal
