import DiceRoller.Random.Keystream

/-!
# Random throws

A generator hands out 64 bit words, and a die is thrown with them so that every side has the same
chance: a word is stretched over the sides, and the few words that would favour some sides are passed
over.

Main results:

- Theorem `throwDie_mem`: a throw lies between one and the number of sides.
-/

namespace DiceRoller

/-- Where random words come from: a list that is used up, with zeros after its end, or the stream of a
seed. -/
inductive Generator where
  | listed (words : List UInt64)
  | seeded (stream : Keystream)
  deriving DecidableEq, Repr

namespace Generator

/-- The generator of a seed. -/
def ofSeed (seed : UInt64) : Generator :=
  .seeded (.ofSeed seed)

/-- Takes the next word. -/
def next : Generator → UInt64 × Generator
  | .listed [] => (0, .listed [])
  | .listed (word :: words) => (word, .listed words)
  | .seeded stream =>
    let drawn := stream.next
    (drawn.1, .seeded drawn.2)

/-- How many words may be passed over before the words repeat.  The zeros after the end of a list are
never passed over, and a seeded stream has as many blocks as there are words, each of eight words. -/
def patience : Generator → Nat
  | .listed words => words.length
  | .seeded _ => UInt64.size * 8

/-! ## One die -/

/-- The side that a word is stretched to, counted from zero: the high half of the product. -/
def stretch (sides word : UInt64) : UInt64 :=
  UInt64.ofNat (word.toNat * sides.toNat / UInt64.size)

/-- The highest low half of the product at which a word is taken: up to it there are equally many
words for every side. -/
def zone (sides : UInt64) : UInt64 :=
  (sides <<< (63 - sides.log2)) - 1

/-- Whether a word may decide a throw. -/
def isFair (sides word : UInt64) : Bool :=
  UInt64.ofNat (word.toNat * sides.toNat % UInt64.size) ≤ zone sides

/-- Throws a die, passing over at most so many words. -/
def throwWithin : Nat → UInt64 → Generator → UInt64 × Generator
  | 0, sides, g =>
    let drawn := g.next
    (1 + stretch sides drawn.1, drawn.2)
  | n + 1, sides, g =>
    let drawn := g.next
    if isFair sides drawn.1 then (1 + stretch sides drawn.1, drawn.2)
    else throwWithin n sides drawn.2

/-- Throws a die. -/
def throwDie (sides : UInt64) (g : Generator) : UInt64 × Generator :=
  throwWithin g.patience sides g

/-! ## First laws -/

/-- Zero decides a throw, whatever the number of sides. -/
theorem isFair_zero (sides : UInt64) : isFair sides 0 = true := by
  simp [isFair]

/-- A word is stretched to one of the sides. -/
theorem stretch_lt {sides : UInt64} (h : sides ≠ 0) (word : UInt64) : stretch sides word < sides := by
  have hword : word.toNat < UInt64.size := word.toNat_lt
  have hsides : 0 < sides.toNat := by
    rcases Nat.eq_zero_or_pos sides.toNat with h0 | hpos
    · exact absurd (UInt64.toNat_inj.1 h0) h
    · exact hpos
  have hquot : word.toNat * sides.toNat / UInt64.size < sides.toNat := by
    rw [Nat.div_lt_iff_lt_mul (by decide), Nat.mul_comm sides.toNat]
    exact Nat.mul_lt_mul_of_pos_right hword hsides
  rw [UInt64.lt_iff_toNat_lt, stretch, UInt64.toNat_ofNat']
  exact Nat.lt_of_le_of_lt (Nat.mod_le _ _) hquot

/-- The side after a stretched word lies between one and the number of sides. -/
theorem one_add_stretch_mem {sides : UInt64} (h : sides ≠ 0) (word : UInt64) :
    1 ≤ 1 + stretch sides word ∧ 1 + stretch sides word ≤ sides := by
  have hlt := UInt64.lt_iff_toNat_lt.1 (stretch_lt h word)
  have hsides := sides.toNat_lt
  simp only [UInt64.le_iff_toNat_le, UInt64.toNat_add, UInt64.toNat_one]
  omega

/-- A throw lies between one and the number of sides. -/
theorem throwDie_mem {sides : UInt64} (h : sides ≠ 0) (g : Generator) :
    1 ≤ (g.throwDie sides).1 ∧ (g.throwDie sides).1 ≤ sides := by
  rw [throwDie]
  generalize g.patience = n
  induction n generalizing g with
  | zero => exact one_add_stretch_mem h _
  | succ n ih =>
    rw [throwWithin]
    split
    · exact one_add_stretch_mem h _
    · exact ih _

end Generator
end DiceRoller
