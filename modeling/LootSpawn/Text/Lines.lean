/-!
# Lines of a source

A line ends at a line feed, and a carriage return right before that line feed belongs to the line
ending. What follows the last line feed is a line only if it is not empty, and it keeps a carriage
return at its end.
-/

namespace LootSpawn.Text

/-- A line that ended at a line feed, without the carriage return of its ending. -/
def dropReturn (line : List Char) : List Char :=
  if line.getLast? = some '\r' then line.dropLast else line

/-- The lines of a text of which `line` has been read, last character first. -/
def linesFrom (line : List Char) : List Char → List (List Char)
  | [] => if line.isEmpty then [] else [line.reverse]
  | c :: cs =>
      if c == '\n' then dropReturn line.reverse :: linesFrom [] cs
      else linesFrom (c :: line) cs

/-- The lines of a text. -/
def lines (cs : List Char) : List (List Char) := linesFrom [] cs

/-- The text without one leading byte-order mark. -/
def dropMark : List Char → List Char
  | [] => []
  | c :: cs => if c == '\uFEFF' then cs else c :: cs

end LootSpawn.Text
