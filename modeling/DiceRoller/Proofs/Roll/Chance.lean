import DiceRoller.Proofs.Roll.Resolution
import DiceRoller.Roll.Query

/-!
# Rolls of random dice

Whatever words a generator hands out, it throws a side of the die.  So a descriptor that can be rolled
gets all its throws, and the one thing that can still go wrong is that the total is too large.  What
the dice show and where the generator stands behind them depends on the descriptor alone, and not on
the label under which the roll is asked for.

Main results:

- Theorem `isSide_of_mem_randomThrows`: random dice show sides only.
- Theorem `rollAs_random`: a roll of random dice makes all its throws.
- Theorems `rollAs_random_of_le` and `rollAs_random_of_lt`: when it has a result.
- Theorem `thrown_cases`: what can come of random dice, without their label.
- Theorem `map_unlabelled_settle`: the label of a roll decides nothing.
-/

namespace DiceRoller

theorem Source.isSide_of_mem_random {sides : UInt64} (h : sides ≠ 0) (n : Nat) (g : Generator) :
    ∀ value ∈ random.throws sides n g, IsSide sides value := by
  induction n generalizing g with
  | zero =>
    intro value hvalue
    cases hvalue
  | succ n ih => exact List.forall_mem_cons.2 ⟨Generator.throwDie_mem h g, ih _⟩

/-- A roll without the label under which it was asked for. -/
def Roll.unlabelled (roll : Roll) : Roll :=
  { roll with label := [] }

namespace Descriptor

/-- What the dice of a descriptor show when a generator throws them. -/
def randomThrows (d : Descriptor) (g : Generator) : List UInt64 :=
  Source.random.throws d.sides d.count.toNat g

/-- The generator behind these throws. -/
def spend (d : Descriptor) (g : Generator) : Generator :=
  Source.random.after d.sides d.count.toNat g

/-- What these throws and the modifier come to. -/
def randomTotal (d : Descriptor) (g : Generator) : Int :=
  keptValue (d.outcomes (d.randomThrows g)) + d.modifier.toInt

variable {d : Descriptor}

/-- Random dice show sides only; without sides there are no dice. -/
theorem isSide_of_mem_randomThrows (hvalid : d.validate = .ok ()) (g : Generator) :
    ∀ value ∈ d.randomThrows g, IsSide d.sides value := by
  rw [randomThrows]
  by_cases hzero : d.sides = 0
  · have hcount : d.count = 0 := ((validate_eq_ok_iff.1 hvalid).2.2.1 hzero).1
    rw [hcount]
    intro value hvalue
    cases hvalue
  · exact Source.isSide_of_mem_random hzero _ g

/-- A roll of random dice makes all its throws. -/
theorem rollAs_random (hvalid : d.validate = .ok ()) (label : List Char) (g : Generator) :
    d.rollAs label .random g = (d.settle label (d.randomThrows g), d.spend g) := by
  rw [rollAs_of_ok hvalid, Source.rollDice_of_sides (isSide_of_mem_randomThrows hvalid g)]
  rfl

theorem length_randomThrows_le (hvalid : d.validate = .ok ()) (g : Generator) :
    (d.randomThrows g).length ≤ 5000 :=
  length_throws_le hvalid

theorem toNat_le_of_mem_randomThrows (hvalid : d.validate = .ok ()) (g : Generator) :
    ∀ value ∈ d.randomThrows g, value.toNat ≤ 5000 := by
  intro value hvalue
  exact toNat_le_of_isSide hvalid (isSide_of_mem_randomThrows hvalid g value hvalue)

section Results

variable {g : Generator} (hvalid : d.validate = .ok ()) (label : List Char)

include hvalid

/-- Random throws make a roll when their total fits. -/
theorem settle_randomThrows_of_le (h : d.randomTotal g ≤ Int64.maxValue.toInt) :
    ∃ roll, d.settle label (d.randomThrows g) = .ok roll ∧
      d.IsExact label (d.randomThrows g) roll :=
  settle_of_le (length_randomThrows_le hvalid g) (toNat_le_of_mem_randomThrows hvalid g) h

/-- Otherwise the total is too large. -/
theorem settle_randomThrows_of_lt (h : Int64.maxValue.toInt < d.randomTotal g) :
    d.settle label (d.randomThrows g) = .error .totalOverflow :=
  settle_of_lt (length_randomThrows_le hvalid g) (toNat_le_of_mem_randomThrows hvalid g) h

/-- A roll of random dice has a result when its total fits. -/
theorem rollAs_random_of_le (h : d.randomTotal g ≤ Int64.maxValue.toInt) :
    ∃ roll, d.rollAs label .random g = (.ok roll, d.spend g) ∧
      d.IsExact label (d.randomThrows g) roll := by
  rcases settle_randomThrows_of_le hvalid label h with ⟨roll, hroll, hexact⟩
  exact ⟨roll, by rw [rollAs_random hvalid, hroll], hexact⟩

/-- Otherwise it has none, and the throws are made all the same. -/
theorem rollAs_random_of_lt (h : Int64.maxValue.toInt < d.randomTotal g) :
    d.rollAs label .random g = (.error .totalOverflow, d.spend g) := by
  rw [rollAs_random hvalid, settle_randomThrows_of_lt hvalid label h]

end Results

/-! ## Throws in turn -/

/-- What comes of a descriptor when a generator throws its dice, whoever asked for it. -/
def thrown (d : Descriptor) (g : Generator) : Except Error Roll :=
  d.settle [] (d.randomThrows g)

/-- What comes of some descriptors when a generator throws their dice in turn. -/
def thrownInTurn : List Descriptor → Generator → List (Except Error Roll)
  | [], _ => []
  | d :: ds, g => d.thrown g :: thrownInTurn ds (d.spend g)

/-- The generator behind the throws of some descriptors. -/
def spendInTurn (ds : List Descriptor) (g : Generator) : Generator :=
  ds.foldl (fun g d => d.spend g) g

/-- Random dice of a descriptor that can be rolled make a roll of it, or their total is too large. -/
theorem thrown_cases (hvalid : d.validate = .ok ()) (g : Generator) :
    (∃ roll, d.thrown g = .ok roll ∧ roll.descriptor = d) ∨ d.thrown g = .error .totalOverflow := by
  by_cases h : d.randomTotal g ≤ Int64.maxValue.toInt
  · rcases settle_randomThrows_of_le hvalid [] h with ⟨roll, hroll, hexact⟩
    exact Or.inl ⟨roll, hroll, hexact.descriptor⟩
  · exact Or.inr (settle_randomThrows_of_lt hvalid [] (Int.not_le.1 h))

/-- The label of a roll decides nothing else about it. -/
theorem map_unlabelled_settle (d : Descriptor) (label : List Char) (values : List UInt64) :
    (d.settle label values).map Roll.unlabelled = d.settle [] values := by
  unfold settle
  cases keptSum (d.outcomes values) with
  | none => rfl
  | some keptTotal =>
    cases htotal : addWithin keptTotal d.modifier with
    | none => simp only [htotal]; rfl
    | some total => simp only [htotal]; rfl

/-- Two dice of twenty sides can be rolled with any keep rule that keeps a die. -/
theorem validate_two_d20 {keep : Keep} (h : keep.count ≠ 0) (modifier : Int64) :
    (dice 2 20 (some keep) modifier).validate = .ok () := by
  rw [validate_eq_ok_iff]
  refine ⟨?_, ?_, ?_, ?_⟩
  · show (2 : UInt64) ≤ maxDice
    decide
  · show (20 : UInt64) ≤ maxSides
    decide
  · intro hzero
    cases hzero
  · intro other hother
    cases hother
    exact h

end Descriptor
end DiceRoller
