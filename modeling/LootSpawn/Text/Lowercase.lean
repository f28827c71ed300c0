import LootSpawn.Text.CaseRanges

/-!
# Lower case

Lower-casing maps every upper-case letter to its lower-case form. Two letters need more than a
single character: the capital i with a dot becomes two characters, and a capital sigma depends on
the letters around it, because Greek writes a sigma that ends a word differently.
-/

namespace LootSpawn.Text

/-- The character is a letter of upper, lower or title case. -/
def isCased (c : Char) : Bool :=
  if c.toNat < 0x80 then c.isAlpha else casedRanges.holds c.toNat

/-- Case rules look through the character to the one beside it. -/
def isCaseIgnorable (c : Char) : Bool :=
  if c.toNat < 0x80 then ['\x27', '.', ':', '^', '\x60'].contains c
  else caseIgnorableRanges.holds c.toNat

/-- The first character that case rules do not look through has case. -/
def startsCased (cs : List Char) : Bool :=
  match cs.dropWhile isCaseIgnorable with
  | [] => false
  | c :: _ => isCased c

/-- The lower-case form of a character, wherever it stands. A capital sigma is taken as one inside
a word. -/
def lowerChar (c : Char) : List Char :=
  if c.toNat < 0x80 then [c.toLower]
  else if c == 'İ' then ['i', '\u0307']
  else match caseRuns.find? (·.covers c.toNat) with
    | some run => [Char.ofNat (run.image c.toNat)]
    | none => [c]

/-- The lower-case sigma between the text before it, nearest character first, and the text after
it: the final form where a word ends. -/
def lowerSigma (before after : List Char) : Char :=
  if startsCased before && !startsCased after then 'ς' else 'σ'

/-- Lower-cases a text that follows `before`, which is given nearest character first. -/
def lowerAfter (before : List Char) : List Char → List Char
  | [] => []
  | c :: cs =>
      let image := if c == 'Σ' then [lowerSigma before cs] else lowerChar c
      image ++ lowerAfter (c :: before) cs

/-- The text in lower case. -/
def lower (cs : List Char) : List Char := lowerAfter [] cs

/-- The string in lower case. -/
def lowerString (s : String) : String := String.ofList (lower s.toList)

end LootSpawn.Text
