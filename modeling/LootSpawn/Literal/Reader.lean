import LootSpawn.Literal.Basic
import LootSpawn.Literal.Blank
import LootSpawn.Literal.Token

/-!
# Reading literals

A document is any number of attributes followed by one literal, with nothing but blanks and comments
around them. Every bracket, and every element inside one, uses up one of the 128 levels to which
literals may be nested.
-/

namespace LootSpawn.Literal

/-- A reader takes a value off the front of a text and yields the rest. -/
abbrev Reader (α : Type) := List Char → Option (α × List Char)

/-- Skips blanks and comments and then the given character. -/
def afterMark? (mark : Char) (cs : List Char) : Option (List Char) := do
  match ← skipSpace cs with
  | [] => none
  | c :: rest => if c == mark then some rest else none

/-- Reads items with commas between them up to the closing character. A comma may follow the last
item. `fuel` bounds the number of items. -/
def separatedFrom {α : Type} (item : Reader α) (close : Char) : Nat → Reader (List α)
  | 0, _ => none
  | fuel + 1, cs => do
      match ← skipSpace cs with
      | [] => none
      | c :: rest =>
          if c == close then some ([], rest)
          else do
            let (first, cs) ← item (c :: rest)
            match ← skipSpace cs with
            | [] => none
            | c :: rest =>
                if c == ',' then do
                  let (more, rest) ← separatedFrom item close fuel rest
                  return (first :: more, rest)
                else if c == close then some ([first], rest)
                else none

/-- Reads items with commas between them up to the closing character. -/
def separated {α : Type} (item : Reader α) (close : Char) : Reader (List α) := fun cs =>
  separatedFrom item close (cs.length + 1) cs

/-- Reads a key, a colon and a value. -/
def keyed {κ : Type} (key : Reader κ) (value : Reader Literal) : Reader (κ × Literal) :=
  fun cs => do
    let (name, rest) ← key cs
    let (item, rest) ← value (← skipSpace (← afterMark? ':' rest))
    return ((name, item), rest)

/-- The text after an opening parenthesis goes on with a word and a colon, as fields do. -/
def startsField (cs : List Char) : Bool :=
  match (skipSpace cs).bind word? with
  | some (_, rest) => (afterMark? ':' rest).isSome
  | none => false

/-- Reads a record or a tuple after its opening parenthesis. -/
def parenthesized (typeName : Option String) (item : Reader Literal) : Reader Literal := fun cs =>
  if startsField cs then
    (separated (keyed word? item) ')' cs).map fun (fields, rest) => (.record typeName fields, rest)
  else
    (separated item ')' cs).map fun (items, rest) => (.tuple typeName items, rest)

/-- The words that stand for themselves, whatever follows them. -/
def reservedWords : List String := ["true", "false", "None"]

/-- The words that are numbers. -/
def numberWords : List String := ["inf", "+inf", "-inf", "NaN", "+NaN", "-NaN"]

/-- Takes one of the given words off the front. -/
def oneOf? (words : List String) (cs : List Char) : Option (String × List Char) :=
  words.findSome? fun word => (afterWholeWord? word.toList cs).map (word, ·)

/-- The notations that an attribute may enable. -/
inductive Extension where
  /-- An option whose value stands without parentheses. -/
  | bareOption
  /-- A record of one field that stands for the field alone. No document of this library has one. -/
  | bareField
  /-- The same inside a named case, which no document of this library has either. -/
  | bareCase
  deriving Repr, DecidableEq

/-- The extension that an attribute calls by the given name. -/
def Extension.ofName? : String → Option Extension
  | "implicit_some" => some .bareOption
  | "unwrap_newtypes" => some .bareField
  | "unwrap_variant_newtypes" => some .bareCase
  | _ => none

/-- Reads the one value inside an option, after its word. The value stands in parentheses, or
`bare` where that is allowed and no parenthesis follows. -/
def optional (bare : Bool) (inner : Reader Literal) : Reader Literal := fun cs => do
  match ← skipSpace cs with
  | '(' :: rest =>
      let (value, rest) ← inner (← skipSpace rest)
      let rest ← skipSpace rest
      let rest := match rest with
        | ',' :: more => more
        | _ => rest
      return (.tuple (some "Some") [value], ← afterMark? ')' rest)
  | rest =>
      if bare then (inner rest).map fun (value, rest) => (.tuple (some "Some") [value], rest)
      else none

/-- Reads a literal that starts with a punctuation mark, a digit or a quotation mark. `item` reads
what is inside brackets; without it no bracket may be opened. -/
def marked (item : Option (Reader Literal)) : Reader Literal
  | [] => none
  | c :: cs =>
      if c == '(' then item.bind fun item => parenthesized none item cs
      else if c == '[' then
        item.bind fun item => (separated item ']' cs).map fun (items, rest) => (.list items, rest)
      else if c == '\x7b' then
        item.bind fun item =>
          (separated (keyed item item) '\x7d' cs).map fun (entries, rest) => (.map entries, rest)
      else if c == '.' then (float? (c :: cs)).map fun (token, rest) => (.number token, rest)
      else if Number.isDigit c || c == '+' || c == '-' then
        (number? (c :: cs)).map fun (token, rest) => (.number token, rest)
      else if c == '"' || c == 'r' then
        (text? (c :: cs)).map fun (value, rest) => (.text value, rest)
      else if c == '\x27' then
        (character? (c :: cs)).map fun (value, rest) => (.character value, rest)
      else none

/-- Reads a literal. `inner` reads what is inside an option, which may be `bare`, and `item` what is
inside brackets. -/
def literal (bare : Bool) (inner item : Option (Reader Literal)) : Reader Literal := fun cs =>
  match oneOf? reservedWords cs with
  | some (name, rest) => some (.word name, rest)
  | none =>
      match oneOf? numberWords cs with
      | some (name, rest) => some (.number name, rest)
      | none =>
          match afterWholeWord? "Some".toList cs with
          | some rest => inner.bind fun inner => optional bare inner rest
          | none =>
              match cs with
              | '(' :: ')' :: rest => some (.tuple none [], rest)
              | _ =>
                  match word? cs with
                  | none => marked item cs
                  | some (name, rest) => do
                      match ← skipSpace rest with
                      | '(' :: rest => item.bind fun item => parenthesized (some name) item rest
                      | rest => some (.word name, rest)

/-- Reads a literal that is nested at most to the given level. An opened bracket is one level, and
an element inside it another. -/
def atMost (bare : Bool) : Nat → Reader Literal
  | 0 => literal bare none none
  | 1 => literal bare (some (atMost bare 0)) (some fun _ => none)
  | level + 2 => literal bare (some (atMost bare (level + 1))) (some (atMost bare level))

/-- Reads the extensions that an attribute enables, at least one, after its hash sign. -/
def attribute? : Reader (List Extension) := fun cs => do
  let rest ← afterMark? '[' (← afterMark? '!' cs)
  let rest ← "enable".toList.isPrefixOf? (← skipSpace rest)
  let (names, rest) ← separated word? ')' (← afterMark? '(' rest)
  if names.isEmpty then none
  else return (← names.mapM Extension.ofName?, ← afterMark? ']' rest)

/-- Reads what the attributes in front of the literal of a document enable together, at most `fuel`
of them. -/
def attributes? : Nat → Reader (List Extension)
  | 0, cs => (skipSpace cs).map ([], ·)
  | fuel + 1, cs => do
      match ← skipSpace cs with
      | '#' :: rest =>
          let (enabled, rest) ← attribute? rest
          let (more, rest) ← attributes? fuel rest
          return (enabled ++ more, rest)
      | rest => return ([], rest)

/-- Reads a document. -/
def ofText? (text : String) : Option Literal := do
  let cs := text.toList
  let (enabled, rest) ← attributes? cs.length cs
  let (value, rest) ← atMost (enabled.contains .bareOption) 128 rest
  match ← skipSpace rest with
  | [] => some value
  | _ => none

end LootSpawn.Literal
