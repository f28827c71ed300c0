/-!
# Keystream

A reproducible stream of 32-bit words from a 64-bit seed. The seed is expanded to a key of eight
words by a permuted congruential generator, and the stream is the output of the ChaCha cipher with
twelve rounds under that key, block after block.
-/

namespace LootSpawn

/-- Four words, one of each column of a cipher block. -/
structure WordRow where
  first : UInt32
  second : UInt32
  third : UInt32
  fourth : UInt32
  deriving DecidableEq, Repr

namespace WordRow

def zipWith (f : UInt32 → UInt32 → UInt32) (a b : WordRow) : WordRow :=
  ⟨f a.first b.first, f a.second b.second, f a.third b.third, f a.fourth b.fourth⟩

/-- Every word rotated left by `amount` bits. -/
def rotateBits (amount : UInt32) (row : WordRow) : WordRow :=
  let rotate (word : UInt32) := (word <<< amount) ||| (word >>> (32 - amount))
  ⟨rotate row.first, rotate row.second, rotate row.third, rotate row.fourth⟩

/-- The words moved one column to the left. -/
def shift (row : WordRow) : WordRow := ⟨row.second, row.third, row.fourth, row.first⟩

def toList (row : WordRow) : List UInt32 := [row.first, row.second, row.third, row.fourth]

end WordRow

/-- The sixteen words of a cipher block. -/
structure CipherBlock where
  top : WordRow
  upper : WordRow
  lower : WordRow
  bottom : WordRow
  deriving DecidableEq, Repr

namespace CipherBlock

/-- Adds `b` to `a`, then mixes the sum into `c` and rotates. -/
def mix (amount : UInt32) (a b c : WordRow) : WordRow × WordRow :=
  let sum := a.zipWith (· + ·) b
  (sum, (c.zipWith (· ^^^ ·) sum).rotateBits amount)

/-- The quarter round on all four columns. -/
def columnRound (block : CipherBlock) : CipherBlock :=
  let (top, bottom) := mix 16 block.top block.upper block.bottom
  let (lower, upper) := mix 12 block.lower bottom block.upper
  let (top, bottom) := mix 8 top upper bottom
  let (lower, upper) := mix 7 lower bottom upper
  ⟨top, upper, lower, bottom⟩

/-- A round on the columns and a round on the diagonals. -/
def doubleRound (block : CipherBlock) : CipherBlock :=
  let columns := block.columnRound
  let diagonals := columnRound
    ⟨columns.top, columns.upper.shift, columns.lower.shift.shift,
      columns.bottom.shift.shift.shift⟩
  ⟨diagonals.top, diagonals.upper.shift.shift.shift, diagonals.lower.shift.shift,
    diagonals.bottom.shift⟩

/-- Twelve rounds, then the words of the start added again. -/
def output (block : CipherBlock) : List UInt32 :=
  let mixed := Nat.repeat doubleRound 6 block
  [(mixed.top, block.top), (mixed.upper, block.upper), (mixed.lower, block.lower),
    (mixed.bottom, block.bottom)].flatMap fun (row, start) => (row.zipWith (· + ·) start).toList

end CipherBlock

/-- A position in a keystream: the key, the number of the next block, and the words of the current
block that are still unused. -/
structure Keystream where
  keyUpper : WordRow
  keyLower : WordRow
  nextBlock : UInt64
  unused : List UInt32
  deriving DecidableEq, Repr

namespace Keystream

/-- One step of the generator that expands a seed: its next state and the word it yields. -/
def expandStep (state : UInt64) : UInt64 × UInt32 :=
  let state := state * 6364136223846793005 + 11634580027462260723
  let word := (((state >>> 18) ^^^ state) >>> 27).toUInt32
  let amount := (state >>> 59).toUInt32
  (state, (word >>> amount) ||| (word <<< (32 - amount)))

/-- Four steps of the expansion. -/
def expandRow (state : UInt64) : UInt64 × WordRow :=
  let (state, first) := expandStep state
  let (state, second) := expandStep state
  let (state, third) := expandStep state
  let (state, fourth) := expandStep state
  (state, ⟨first, second, third, fourth⟩)

/-- The start of the stream of a seed. -/
def ofSeed (seed : UInt64) : Keystream :=
  let (state, keyUpper) := expandRow seed
  let (_, keyLower) := expandRow state
  ⟨keyUpper, keyLower, 0, []⟩

/-- The words of a block of the stream. -/
def block (stream : Keystream) (index : UInt64) : List UInt32 :=
  CipherBlock.output
    ⟨⟨0x61707865, 0x3320646E, 0x79622D32, 0x6B206574⟩, stream.keyUpper, stream.keyLower,
      ⟨index.toUInt32, (index >>> 32).toUInt32, 0, 0⟩⟩

/-- Takes the next word. -/
def next (stream : Keystream) : UInt32 × Keystream :=
  match stream.unused with
  | word :: rest => (word, { stream with unused := rest })
  | [] =>
      match stream.block stream.nextBlock with
      | word :: rest => (word, { stream with nextBlock := stream.nextBlock + 1, unused := rest })
      | [] => (0, stream)

end Keystream

end LootSpawn
