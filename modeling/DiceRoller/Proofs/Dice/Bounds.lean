import DiceRoller.Dice.Descriptor

/-!
# Bounds of a total

A descriptor announces its bounds in steps, each of which stops at the limits of 64 bits: first all the
dice that count, as an unsigned number that is then made a signed one, and at last their sum with the
modifier.  The first steps come to one, and a single step would mostly stop at the same number as well.
It does not when there are more dice than 64 bits hold and the modifier takes away from them:
what lies beyond the limit is lost with the first step, and the modifier counts from the limit.

Main results:

- Theorem `toInt_saturate`: the nearest 64 bit number, in the integers.
- Theorem `toSigned_mulNearest`: the product and its sign come to one step.
- Theorem `toInt_saturate_add`: both steps, in the integers.
- Theorem `Descriptor.min_max_eq_clamp_iff`: when two steps lead where one would.
-/

namespace DiceRoller

/-- An integer, held within the limits of 64 bits. -/
def clamp (n : Int) : Int :=
  max Int64.minValue.toInt (min n Int64.maxValue.toInt)

/-- The nearest 64 bit number, in the integers. -/
theorem toInt_saturate (n : Int) : (saturate n).toInt = clamp n := by
  unfold saturate clamp
  simp only [Int64.toInt_minValue, Int64.toInt_maxValue]
  split
  · rw [Int64.toInt_minValue]
    omega
  · split
    · rw [Int64.toInt_maxValue]
      omega
    · rw [Int64.toInt_ofInt_of_le (by omega) (by omega)]
      omega

/-! ## The first step -/

/-- An unsigned number is made a signed one by a single step. -/
theorem toSigned_eq_saturate (n : UInt64) : toSigned n = saturate n.toNat := by
  unfold toSigned saturate
  simp only [Int64.toInt_minValue, Int64.toInt_maxValue]
  split
  · rw [if_neg (by omega), if_neg (by omega)]
    rfl
  · rw [if_neg (by omega), if_pos (by omega)]

/-- A product that stops at the limit of unsigned numbers, and then at that of signed ones, comes to a
single step. -/
theorem toSigned_mulNearest (a b : UInt64) :
    toSigned (mulNearest a b) = saturate ((a.toNat * b.toNat : Nat) : Int) := by
  rw [toSigned_eq_saturate, mulNearest]
  split
  · rename_i h
    rw [UInt64.toNat_ofNat_of_lt' h]
  · rename_i h
    have hsize : UInt64.size = 18446744073709551616 := rfl
    unfold saturate
    simp only [Int64.toInt_minValue, Int64.toInt_maxValue]
    rw [if_neg (by decide), if_pos (by decide), if_neg (by omega), if_pos (by omega)]

namespace Descriptor

/-- The lowest total in two steps. -/
theorem min_eq (d : Descriptor) :
    d.min = saturate ((saturate d.keptCount.toNat).toInt + d.modifier.toInt) := by
  rw [min, addNearest, toSigned_eq_saturate]

/-- The highest total in two steps. -/
theorem max_eq (d : Descriptor) :
    d.max = saturate ((saturate ((d.keptCount.toNat * d.sides.toNat : Nat) : Int)).toInt +
      d.modifier.toInt) := by
  rw [max, addNearest, toSigned_mulNearest]

end Descriptor

/-! ## Two steps -/

section Steps

variable (pool : Nat) (modifier : Int64)

/-- Both steps, in the integers: only the first one cuts at the upper limit before the modifier is
added. -/
theorem toInt_saturate_add :
    (saturate ((saturate pool).toInt + modifier.toInt)).toInt =
      clamp (min (pool : Int) Int64.maxValue.toInt + modifier.toInt) := by
  have hpool : (saturate pool).toInt = min (pool : Int) Int64.maxValue.toInt := by
    rw [toInt_saturate, clamp]
    simp only [Int64.toInt_minValue, Int64.toInt_maxValue]
    omega
  rw [hpool, toInt_saturate]

/-- Two steps lead where one would, unless the first one cuts something off and the second one takes
something away. -/
theorem toInt_saturate_add_eq_clamp_iff :
    (saturate ((saturate pool).toInt + modifier.toInt)).toInt = clamp (pool + modifier.toInt) ↔
      (pool : Int) ≤ Int64.maxValue.toInt ∨ 0 ≤ modifier.toInt := by
  have hlow := modifier.minValue_le_toInt
  rw [toInt_saturate_add, clamp, clamp]
  simp only [Int64.toInt_minValue, Int64.toInt_maxValue] at hlow ⊢
  omega

/-- In that case the modifier counts from the upper limit. -/
theorem toInt_saturate_add_of_lt (hpool : Int64.maxValue.toInt < pool) (hmodifier : modifier.toInt < 0) :
    (saturate ((saturate pool).toInt + modifier.toInt)).toInt =
      Int64.maxValue.toInt + modifier.toInt := by
  have hlow := modifier.minValue_le_toInt
  rw [toInt_saturate_add, clamp]
  simp only [Int64.toInt_minValue, Int64.toInt_maxValue] at hlow hpool ⊢
  omega

end Steps

/-! ## The announced bounds -/

namespace Descriptor

/-- The bounds of a total, for every descriptor.  Each is what the dice that count come to, all on one
or all on their highest side, with the modifier and within the limits of 64 bits; except when these dice
alone come to more than 64 bits hold and the modifier is negative: then it is the upper limit and the
modifier, which is less. -/
theorem min_max_eq_clamp_iff (d : Descriptor) :
    let ones : Int := d.keptCount.toNat
    let tops : Int := d.keptCount.toNat * d.sides.toNat
    let modifier := d.modifier.toInt
    (d.min.toInt = clamp (ones + modifier) ↔ ones ≤ Int64.maxValue.toInt ∨ 0 ≤ modifier) ∧
    (d.max.toInt = clamp (tops + modifier) ↔ tops ≤ Int64.maxValue.toInt ∨ 0 ≤ modifier) ∧
    (Int64.maxValue.toInt < ones ∧ modifier < 0 → d.min.toInt = Int64.maxValue.toInt + modifier) ∧
    (Int64.maxValue.toInt < tops ∧ modifier < 0 → d.max.toInt = Int64.maxValue.toInt + modifier) := by
  intro ones tops modifier
  have htops : tops = (d.keptCount.toNat * d.sides.toNat : Nat) := (Int.natCast_mul _ _).symm
  rw [htops, min_eq, max_eq]
  refine ⟨toInt_saturate_add_eq_clamp_iff _ _, toInt_saturate_add_eq_clamp_iff _ _, ?_, ?_⟩
  · intro h
    exact toInt_saturate_add_of_lt _ _ h.1 h.2
  · intro h
    exact toInt_saturate_add_of_lt _ _ h.1 h.2

/-- One die more than 64 bits hold, of a single side, and a modifier of minus one: both bounds are the
upper limit in one step, and fall short of it in two. -/
theorem min_max_ne_clamp :
    let d := dice 9223372036854775808 1 none (-1)
    d.keptCount.toNat + d.modifier.toInt = Int64.maxValue.toInt ∧
      d.min.toInt ≠ clamp (d.keptCount.toNat + d.modifier.toInt) ∧
      d.max.toInt ≠ clamp (d.keptCount.toNat * d.sides.toNat + d.modifier.toInt) := by
  decide

end Descriptor
end DiceRoller
