/-!
# Seeded random words

An endless stream of 64 bit words that a seed determines: the ChaCha cipher with twelve rounds, its
key spread out from the seed by a linear congruential generator with permuted output.  Eight words
come from each block of the cipher, and the blocks are numbered from zero.
-/

namespace DiceRoller

/-- The sixteen words of a block of the cipher. -/
abbrev Block := Vector UInt32 16

namespace Block

/-- Rotates the bits of a word to the left. -/
def rotateLeft (word : UInt32) (bits : UInt32) : UInt32 :=
  (word <<< bits) ||| (word >>> (32 - bits))

/-- Adds the second word to the first and mixes the sum into the third, which is then rotated. -/
def mix (s : Block) (a b d : Fin 16) (bits : UInt32) : Block :=
  let s := s.set a (s[a] + s[b])
  s.set d (rotateLeft (s[d] ^^^ s[a]) bits)

/-- The quarter round on four words of a block. -/
def quarterRound (s : Block) (a b c d : Fin 16) : Block :=
  let s := s.mix a b d 16
  let s := s.mix c d b 12
  let s := s.mix a b d 8
  s.mix c d b 7

/-- A round over the columns of the block and one over its diagonals. -/
def doubleRound (s : Block) : Block :=
  let s := s.quarterRound 0 4 8 12
  let s := s.quarterRound 1 5 9 13
  let s := s.quarterRound 2 6 10 14
  let s := s.quarterRound 3 7 11 15
  let s := s.quarterRound 0 5 10 15
  let s := s.quarterRound 1 6 11 12
  let s := s.quarterRound 2 7 8 13
  s.quarterRound 3 4 9 14

/-- Twelve rounds, and the sum with the block that went in. -/
def scramble (s : Block) : Block :=
  (Nat.repeat doubleRound 6 s).zipWith (fun x y => x + y) s

/-- One of the eight 64 bit words of a block, its low half first. -/
def word (s : Block) (i : Fin 8) : UInt64 :=
  let low := s[2 * i.val]
  let high := s[2 * i.val + 1]
  low.toUInt64 ||| (high.toUInt64 <<< 32)

end Block

/-! ## The key -/

/-- The next state of the generator that spreads out a seed. -/
def Seed.step (state : UInt64) : UInt64 :=
  state * 6364136223846793005 + 11634580027462260723

/-- The word that belongs to a state of that generator. -/
def Seed.output (state : UInt64) : UInt32 :=
  let mixed := (((state >>> 18) ^^^ state) >>> 27).toUInt32
  let turn := (state >>> 59).toUInt32
  (mixed >>> turn) ||| (mixed <<< ((32 - turn) % 32))

/-- The words that a seed is spread out to. -/
def Seed.words : Nat → UInt64 → List UInt32
  | 0, _ => []
  | n + 1, state => Seed.output (Seed.step state) :: Seed.words n (Seed.step state)

@[simp]
theorem Seed.length_words (n : Nat) (state : UInt64) : (Seed.words n state).length = n := by
  induction n generalizing state with
  | zero => rfl
  | succ n ih => rw [Seed.words, List.length_cons, ih]

/-- The key of a seed. -/
def Seed.key (seed : UInt64) : Vector UInt32 8 :=
  ⟨(Seed.words 8 seed).toArray, by simp⟩

/-! ## The stream -/

/-- The rest of a stream: the number of the next block, and the words of the current block that have
not been taken yet. -/
structure Keystream where
  key : Vector UInt32 8
  block : UInt64
  pending : List UInt64
  deriving DecidableEq, Repr

namespace Keystream

/-- The stream of a seed, from its start. -/
def ofSeed (seed : UInt64) : Keystream :=
  ⟨Seed.key seed, 0, []⟩

/-- The block of a number, before it is scrambled. -/
def plainBlock (key : Vector UInt32 8) (number : UInt64) : Block :=
  #v[0x61707865, 0x3320646e, 0x79622d32, 0x6b206574,
    key[0], key[1], key[2], key[3], key[4], key[5], key[6], key[7],
    number.toUInt32, (number >>> 32).toUInt32, 0, 0]

/-- Takes the next word off the stream. -/
def next (s : Keystream) : UInt64 × Keystream :=
  match s.pending with
  | word :: words => (word, { s with pending := words })
  | [] =>
    let block := (plainBlock s.key s.block).scramble
    (block.word 0,
      { s with
        block := s.block + 1
        pending := [block.word 1, block.word 2, block.word 3, block.word 4, block.word 5,
          block.word 6, block.word 7] })

end Keystream
end DiceRoller
