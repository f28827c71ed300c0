import LootSpawn.Text.CodeRanges

/-!
# White space

A blank is one of the twenty-five characters with the white-space property. Trimming removes the
blanks at both ends of a text, and words are what lies between runs of blanks.
-/

namespace LootSpawn.Text

def blankRanges : CodeRanges := [
  (0x9, 0xD), (0x20, 0x20), (0x85, 0x85), (0xA0, 0xA0), (0x1680, 0x1680), (0x2000, 0x200A),
  (0x2028, 0x2029), (0x202F, 0x202F), (0x205F, 0x205F), (0x3000, 0x3000)]

/-- The character is white space. -/
def isBlank (c : Char) : Bool := blankRanges.holds c.toNat

/-- The text after its leading blanks. -/
def skipBlanks (cs : List Char) : List Char := cs.dropWhile isBlank

/-- The text without its trailing blanks. -/
def dropTrailingBlanks : List Char → List Char
  | [] => []
  | c :: cs =>
      match dropTrailingBlanks cs with
      | [] => if isBlank c then [] else [c]
      | kept => c :: kept

/-- The text without the blanks at its two ends. -/
def trim (cs : List Char) : List Char := dropTrailingBlanks (skipBlanks cs)

/-- The maximal runs of characters that are not blank, in order. -/
def words : List Char → List (List Char)
  | [] => []
  | c :: cs =>
      if isBlank c then words cs
      else match cs with
        | [] => [[c]]
        | next :: _ =>
            if isBlank next then [c] :: words cs
            else match words cs with
              | [] => [[c]]
              | word :: rest => (c :: word) :: rest

end LootSpawn.Text
