import LootSpawn.Text.Blank
import LootSpawn.Text.Word

/-!
# Clauses of a line

A clause is a key, an equals sign and a value, with blanks around the sign. The clauses of a spawn
are set apart by runs of characters that are no word characters, and commas, points and signs occur
both in such a run and in a vector. A vector is therefore read with all the places where it may end,
and the longest one that lets the rest of the line be read is its end.
-/

namespace LootSpawn

open Text

/-- The characters of a numeric token. Whether the token is a number is decided once the shape of
the line is known. -/
def isNumeric (c : Char) : Bool := isWord c || c == '-' || c == '+' || c == '.'

/-- What follows `key` and an equals sign, with the blanks around the sign skipped. -/
def afterKey? (key : List Char) (cs : List Char) : Option (List Char) := do
  let rest ← key.isPrefixOf? cs
  let value ← ['='].isPrefixOf? (skipBlanks rest)
  return skipBlanks value

/-- What follows a separator and a key with its equals sign. A separator is a run of one or more
characters that are no word characters. -/
def afterSeparatedKey? (key : Char) (cs : List Char) : Option (List Char) :=
  match cs with
  | [] => none
  | c :: _ => if isWord c then none else afterKey? [key] (cs.dropWhile fun c => !isWord c)

/-- Splits a nonempty name off the front. -/
def name? (cs : List Char) : Option (List Char × List Char) :=
  match cs.span isWord with
  | ([], _) => none
  | (name, rest) => some (name, rest)

/-- A numeric token that takes up the whole text. -/
def wholeToken? (cs : List Char) : Option (List Char) :=
  if !cs.isEmpty && cs.all isNumeric then some cs else none

/-- The place in a vector: before a token or in the blanks there, inside a token, and in the blanks
after a token. -/
inductive VectorPlace where
  | before
  | inside
  | after
  deriving DecidableEq

/-- The places where a vector may end, the last one first: how many characters it then has, and the
text after it. `read` characters are behind the current place, and `ends` are the places found. -/
def vectorEndsFrom (place : VectorPlace) (read : Nat) (ends : List (Nat × List Char)) :
    List Char → List (Nat × List Char)
  | [] => ends
  | c :: cs =>
      if isNumeric c && place != .after then
        vectorEndsFrom .inside (read + 1) ((read + 1, cs) :: ends) cs
      else if isBlank c then
        vectorEndsFrom (if place == .before then .before else .after) (read + 1) ends cs
      else if c == ',' && place != .before then
        vectorEndsFrom .before (read + 1) ends cs
      else ends

/-- The places where a vector at the start of the text may end, the last one first. A vector is
numeric tokens with single commas between them and blanks around the commas. -/
def vectorEnds (cs : List Char) : List (Nat × List Char) := vectorEndsFrom .before 0 [] cs

end LootSpawn
