/-!
# Blanks and comments between literals

Literals are set apart by four white-space characters and by comments: to the end of a line after
two slashes, and between a slash with a star and the matching star with a slash, which may be
nested.
-/

namespace LootSpawn.Literal

def isSpace (c : Char) : Bool := c == ' ' || c == '\n' || c == '\t' || c == '\r'

/-- Where the text stands: outside comments, in a comment that ends with the line, or in nested
comments inside the outermost one. -/
inductive SpacePlace where
  | outside
  | line
  | block (nested : Nat)

/-- Skips blanks and comments from a place; nothing if a comment is malformed or unfinished. -/
def skipSpaceFrom : SpacePlace → List Char → Option (List Char)
  | .outside, [] => some []
  | .line, [] => some []
  | .block _, [] => none
  | .outside, '/' :: '/' :: cs => skipSpaceFrom .line cs
  | .outside, '/' :: '*' :: cs => skipSpaceFrom (.block 0) cs
  | .outside, c :: cs =>
      if isSpace c then skipSpaceFrom .outside cs
      else if c == '/' then none
      else some (c :: cs)
  | .line, c :: cs => skipSpaceFrom (if c == '\n' then .outside else .line) cs
  | .block nested, '/' :: '*' :: cs => skipSpaceFrom (.block (nested + 1)) cs
  | .block 0, '*' :: '/' :: cs => skipSpaceFrom .outside cs
  | .block (nested + 1), '*' :: '/' :: cs => skipSpaceFrom (.block nested) cs
  | .block nested, _ :: cs => skipSpaceFrom (.block nested) cs

/-- Skips blanks and comments. -/
def skipSpace (cs : List Char) : Option (List Char) := skipSpaceFrom .outside cs

end LootSpawn.Literal
