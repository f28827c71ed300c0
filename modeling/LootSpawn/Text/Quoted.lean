import LootSpawn.Text.EscapedRanges

/-!
# Quoted text

A quoted text stands between quotation marks with its quotes, backslashes and unseen characters
escaped. Every escape starts with a backslash, and a backslash itself is escaped, so the written
form determines the text.
-/

namespace LootSpawn.Text

/-- The character would not be seen as itself between quotation marks. -/
def isEscaped (c : Char) : Bool :=
  if c.toNat < 0x7F then c.toNat < 0x20 else escapedRanges.holds c.toNat

/-- The lower-case hexadecimal digits of a number. -/
def hexDigits (n : Nat) : List Char := Nat.toDigits 16 n

/-- How a character is written between quotation marks. -/
def quoteChar (c : Char) : List Char :=
  if c == '\x00' then ['\\', '0']
  else if c == '\t' then ['\\', 't']
  else if c == '\r' then ['\\', 'r']
  else if c == '\n' then ['\\', 'n']
  else if c == '\\' || c == '"' || c == '\x27' then ['\\', c]
  else if isEscaped c then ['\\', 'u', '\x7b'] ++ hexDigits c.toNat ++ ['\x7d']
  else [c]

/-- The text between quotation marks. -/
def quote (cs : List Char) : List Char := '"' :: cs.flatMap quoteChar ++ ['"']

end LootSpawn.Text
