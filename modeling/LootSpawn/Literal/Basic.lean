/-!
# Literals

Configurations and stored content are written as literals: records with named fields in
parentheses, tuples, lists in brackets, maps in braces, quoted texts, characters, numbers and bare
words. A literal keeps numbers as they are written, since what a number means depends on the field
that it is read for.
-/

namespace LootSpawn

/-- A value in the literal notation. Records and tuples may be preceded by a type name. -/
inductive Literal where
  | text (value : String)
  | character (value : Char)
  | number (token : String)
  | word (name : String)
  | list (items : List Literal)
  | map (entries : List (Literal × Literal))
  | tuple (typeName : Option String) (items : List Literal)
  | record (typeName : Option String) (fields : List (String × Literal))
  deriving Repr, Inhabited

end LootSpawn
