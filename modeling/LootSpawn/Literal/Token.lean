import LootSpawn.Number.Decimal

/-!
# Words, numbers and quoted texts

The smallest parts of a literal. Each reader takes its part off the front of the text, as long as
it goes, and yields the rest.
-/

namespace LootSpawn.Literal

open Number

/-! ## Words -/

def isWordStart (c : Char) : Bool := c.isAlpha || c == '_'

def isWordPart (c : Char) : Bool := c.isAlphanum || c == '_'

/-- The characters of a raw word, which follows a hash sign. -/
def isRawPart (c : Char) : Bool := isWordPart c || c == '.' || c == '+' || c == '-'

/-- A word that is not marked as raw. It must not run into characters that only raw words have. -/
def plainWord? (cs : List Char) : Option (String × List Char) :=
  let (name, rest) := cs.span isWordPart
  match rest with
  | c :: _ => if isRawPart c then none else some (String.ofList name, rest)
  | [] => some (String.ofList name, [])

/-- Reads a word, plain or raw. The start of a raw text is no word. -/
def word? (cs : List Char) : Option (String × List Char) :=
  match cs with
  | 'r' :: rest =>
      match rest with
      | [] => none
      | '"' :: _ => none
      | '#' :: more =>
          let (name, rest) := more.span isRawPart
          if name.isEmpty then none else some (String.ofList name, rest)
      | _ => plainWord? cs
  | c :: _ => if isWordStart c then plainWord? cs else none
  | [] => none

/-- What follows the given word at the start of a text, where the word ends. -/
def afterWholeWord? : List Char → List Char → Option (List Char)
  | [], [] => some []
  | [], c :: cs => if isWordPart c then none else some (c :: cs)
  | _ :: _, [] => none
  | w :: ws, c :: cs => if w == c then afterWholeWord? ws cs else none

/-! ## Numbers -/

def isFloatPart (c : Char) : Bool :=
  isDigit c || c == 'e' || c == 'E' || c == '+' || c == '-' || c == '.' || c == '_'

def isIntegerPart (c : Char) : Bool :=
  isDigit c || ('a' ≤ c && c ≤ 'f') || ('A' ≤ c && c ≤ 'F') || c == '_'

/-- The value of a hexadecimal digit. -/
def hexValue? (c : Char) : Option Nat :=
  if isDigit c then some (c.toNat - '0'.toNat)
  else if 'a' ≤ c && c ≤ 'f' then some (c.toNat - 'a'.toNat + 10)
  else if 'A' ≤ c && c ≤ 'F' then some (c.toNat - 'A'.toNat + 10)
  else none

/-- Continues the value of a number in the given base with more digits; underscores are skipped. -/
def digitsValue? (base value : Nat) : List Char → Option Nat
  | [] => some value
  | c :: cs =>
      if c == '_' then digitsValue? base value cs
      else match hexValue? c with
        | some digit =>
            if digit < base then digitsValue? base (value * base + digit) cs else none
        | none => none

/-- The base that the start of an integer announces, and its digits. -/
def baseAndDigits : List Char → Nat × List Char
  | '0' :: 'x' :: cs => (16, cs)
  | '0' :: 'b' :: cs => (2, cs)
  | '0' :: 'o' :: cs => (8, cs)
  | cs => (10, cs)

/-- The value of a text that is an unsigned integer: digits of its base, not starting with an
underscore. -/
def integerValue? (cs : List Char) : Option Nat :=
  match baseAndDigits cs with
  | (_, []) => none
  | (_, '_' :: _) => none
  | (base, digits) => digitsValue? base 0 digits

/-- Splits an integer off the front, as far as its digits go. -/
def spanInteger : List Char → List Char × List Char
  | '0' :: 'x' :: cs => let (digits, rest) := cs.span isIntegerPart; ('0' :: 'x' :: digits, rest)
  | '0' :: 'b' :: cs => let (digits, rest) := cs.span isIntegerPart; ('0' :: 'b' :: digits, rest)
  | '0' :: 'o' :: cs => let (digits, rest) := cs.span isIntegerPart; ('0' :: 'o' :: digits, rest)
  | cs => cs.span isIntegerPart

/-- Reads a number with a point or an exponent. -/
def float? (cs : List Char) : Option (String × List Char) :=
  let (token, rest) := cs.span isFloatPart
  if (Decimal.scientific? token).isSome then some (String.ofList token, rest) else none

/-- Reads an integer of 64 bits with an optional sign. -/
def integer? (cs : List Char) : Option (String × List Char) :=
  let (sign, body) := match cs with
    | '+' :: rest => (['+'], rest)
    | '-' :: rest => (['-'], rest)
    | _ => ([], cs)
  let bound :=
    if sign.isEmpty then UInt64.size
    else if sign == ['-'] then 0x8000000000000001 else 0x8000000000000000
  let (token, rest) := spanInteger body
  match integerValue? token with
  | some value => if value < bound then some (String.ofList (sign ++ token), rest) else none
  | none => none

/-- Reads a number. It is an integer unless characters follow that only other numbers have, and an
integer that is malformed or too large is tried as another number. -/
def number? (cs : List Char) : Option (String × List Char) :=
  let body := match cs with
    | '+' :: rest => rest
    | '-' :: rest => rest
    | _ => cs
  if (body.takeWhile isIntegerPart).length < (body.takeWhile isFloatPart).length then float? cs
  else match integer? cs with
    | some result => some result
    | none => float? cs

/-! ## Quoted texts and characters -/

/-- Reads the hexadecimal digits of an escape up to its closing brace, at most `room` more. -/
def bracedCode? (room value : Nat) : List Char → Option (Nat × List Char)
  | [] => none
  | c :: cs =>
      if c == '\x7d' then some (value, cs)
      else match room, hexValue? c with
        | room + 1, some digit => bracedCode? room (value * 16 + digit) cs
        | _, _ => none

/-- Reads an escape after its backslash. -/
def escape? : List Char → Option (Char × List Char)
  | 'n' :: cs => some ('\n', cs)
  | 'r' :: cs => some ('\r', cs)
  | 't' :: cs => some ('\t', cs)
  | '0' :: cs => some ('\x00', cs)
  | 'x' :: a :: b :: cs =>
      match hexValue? a, hexValue? b with
      | some high, some low => some (Char.ofNat (high * 16 + low), cs)
      | _, _ => none
  | 'u' :: '\x7b' :: c :: cs =>
      match hexValue? c with
      | none => none
      | some digit =>
          match bracedCode? 5 digit cs with
          | some (code, rest) =>
              if code.isValidChar then some (Char.ofNat code, rest) else none
          | none => none
  | c :: cs => if c == '\\' || c == '"' || c == '\x27' then some (c, cs) else none
  | [] => none

/-- Reads the rest of a quoted text up to its closing quotation mark. `fuel` bounds the number of
characters and escapes. -/
def quotedFrom? : Nat → List Char → Option (List Char × List Char)
  | 0, _ => none
  | _ + 1, [] => none
  | fuel + 1, c :: cs =>
      if c == '"' then some ([], cs)
      else if c == '\\' then do
        let (escaped, rest) ← escape? cs
        let (more, rest) ← quotedFrom? fuel rest
        return (escaped :: more, rest)
      else do
        let (more, rest) ← quotedFrom? fuel cs
        return (c :: more, rest)

/-- Reads a raw text up to a quotation mark that is followed by `hashes` hash signs. -/
def rawFrom? (hashes : List Char) : List Char → Option (List Char × List Char)
  | [] => none
  | c :: cs =>
      if c == '"' && hashes.isPrefixOf cs then some ([], cs.drop hashes.length)
      else (rawFrom? hashes cs).map fun (more, rest) => (c :: more, rest)

/-- Reads a quoted or raw text. -/
def text? : List Char → Option (String × List Char)
  | '"' :: cs => (quotedFrom? (cs.length + 1) cs).map fun (body, rest) => (String.ofList body, rest)
  | 'r' :: cs =>
      let (hashes, rest) := cs.span (· == '#')
      match rest with
      | '"' :: quoted => (rawFrom? hashes quoted).map fun (body, rest) => (String.ofList body, rest)
      | _ => none
  | _ => none

/-- Reads a character between apostrophes. -/
def character? : List Char → Option (Char × List Char)
  | '\x27' :: '\\' :: cs => do
      let (c, rest) ← escape? cs
      match rest with
      | '\x27' :: rest => some (c, rest)
      | _ => none
  | '\x27' :: c :: '\x27' :: rest => if c == '\x27' then none else some (c, rest)
  | _ => none

end LootSpawn.Literal
