import DiceRoller.Dice.Keep

/-!
# Descriptors

A descriptor says what to roll: so many dice of so many sides, perhaps a keep rule, and a modifier
that is added to the sum.  A descriptor without sides is a plain number.  Any four values make a
descriptor; `Descriptor.validate` tells those that can be rolled from those that cannot.

Main results:

- Theorem `kept_le_count`: no more dice are kept than are rolled.
- Theorem `validate_eq_ok_iff`: which descriptors can be rolled, as bounds on their values.
-/

namespace DiceRoller

/-- The largest number of dice in a roll. -/
def maxDice : UInt64 := 5000

/-- The largest number of sides of a die. -/
def maxSides : UInt64 := 5000

/-! ## Sums within 64 bits -/

/-- The nearest signed 64 bit number. -/
def saturate (n : Int) : Int64 :=
  if n < Int64.minValue.toInt then Int64.minValue
  else if Int64.maxValue.toInt < n then Int64.maxValue
  else Int64.ofInt n

/-- The product of two unsigned numbers, or the largest one if that is less. -/
def mulNearest (a b : UInt64) : UInt64 :=
  if a.toNat * b.toNat < UInt64.size then UInt64.ofNat (a.toNat * b.toNat)
  else UInt64.ofNat (UInt64.size - 1)

/-- The signed number nearest to an unsigned one. -/
def toSigned (n : UInt64) : Int64 :=
  if n.toNat ≤ Int64.maxValue.toInt.toNat then Int64.ofNat n.toNat else Int64.maxValue

/-- The sum of two numbers, or the nearest number that 64 bits hold. -/
def addNearest (a b : Int64) : Int64 :=
  saturate (a.toInt + b.toInt)

/-- The sum of two numbers, if it fits. -/
def addWithin (a b : Int64) : Option Int64 :=
  if Int64.minValue.toInt ≤ a.toInt + b.toInt ∧ a.toInt + b.toInt ≤ Int64.maxValue.toInt then
    some (Int64.ofInt (a.toInt + b.toInt))
  else none

/-! ## The type -/

/-- What to roll, and the notation that says so in lower case and without blanks. -/
structure Descriptor where
  count : UInt64
  sides : UInt64
  keep : Option Keep
  modifier : Int64
  canonical : List Char
  deriving DecidableEq, Repr

/-- Why a descriptor cannot be rolled. -/
inductive DescriptorFault where
  | tooManyDice (canonical : List Char)
  | tooManySides (canonical : List Char)
  | noSides (canonical : List Char) (count : UInt64)
  | keepsWithoutDice (canonical : List Char)
  | keepsNone (canonical : List Char)
  deriving DecidableEq, Repr

/-- The wording of a fault. -/
def DescriptorFault.message : DescriptorFault → String
  | tooManyDice canonical =>
    s!"`{String.ofList canonical}` exceeded max allowed amount of dices `{maxDice}`"
  | tooManySides canonical =>
    s!"`{String.ofList canonical}` exceeded max allowed number of dice sides `{maxSides}`"
  | noSides canonical count => s!"`{String.ofList canonical}` rolls {count} dice without sides"
  | keepsWithoutDice canonical => s!"`{String.ofList canonical}` keeps dice but rolls none"
  | keepsNone canonical => s!"`{String.ofList canonical}` keeps no dice"

namespace Descriptor

/-! ## Descriptors from their parts -/

/-- The written form of a modifier after dice: signed, and nothing for zero. -/
def renderModifier (modifier : Int64) : List Char :=
  if modifier = 0 then [] else Decimal.withSign modifier.toInt

/-- The notation of a roll of dice. -/
def renderDice (count sides : UInt64) (keep : Option Keep) (modifier : Int64) : List Char :=
  Decimal.digits count.toNat ++ 'd' :: Decimal.digits sides.toNat ++
    (keep.map Keep.render).getD [] ++ renderModifier modifier

/-- Dice, given by their parts. -/
def dice (count sides : UInt64) (keep : Option Keep) (modifier : Int64) : Descriptor :=
  ⟨count, sides, keep, modifier, renderDice count sides keep modifier⟩

/-- A plain number. -/
def flat (modifier : Int64) : Descriptor :=
  ⟨0, 0, none, modifier, Decimal.signed modifier.toInt⟩

/-! ## Questions -/

/-- Whether the descriptor is a plain number. -/
def isFlat (d : Descriptor) : Bool :=
  d.sides == 0

/-- Whether it is one twenty-sided die that is kept as it falls. -/
def isSingleD20 (d : Descriptor) : Bool :=
  d.count == 1 && d.sides == 20 && d.keep.isNone

/-- How many dice count towards the total. -/
def keptCount (d : Descriptor) : UInt64 :=
  match d.keep with
  | some keep => min keep.count d.count
  | none => d.count

/-- The lowest total, every kept die showing one. -/
def min (d : Descriptor) : Int64 :=
  addNearest (toSigned d.keptCount) d.modifier

/-- The highest total, every kept die showing all its sides. -/
def max (d : Descriptor) : Int64 :=
  addNearest (toSigned (mulNearest d.keptCount d.sides)) d.modifier

/-- Succeeds for the descriptors that can be rolled. -/
def validate (d : Descriptor) : Except DescriptorFault Unit :=
  if maxDice < d.count then .error (.tooManyDice d.canonical)
  else if maxSides < d.sides then .error (.tooManySides d.canonical)
  else if d.sides = 0 ∧ d.count ≠ 0 then .error (.noSides d.canonical d.count)
  else if d.sides = 0 ∧ d.keep.isSome then .error (.keepsWithoutDice d.canonical)
  else if d.keep.any (fun keep => keep.count = 0) then .error (.keepsNone d.canonical)
  else .ok ()

/-! ## First laws -/

@[simp]
theorem dice_canonical (count sides : UInt64) (keep : Option Keep) (modifier : Int64) :
    (dice count sides keep modifier).canonical = renderDice count sides keep modifier :=
  rfl

@[simp]
theorem flat_isFlat (modifier : Int64) : (flat modifier).isFlat = true :=
  rfl

/-- No more dice are kept than are rolled. -/
theorem kept_le_count (d : Descriptor) : d.keptCount ≤ d.count := by
  rw [keptCount]
  split
  · rename_i keep _
    by_cases h : keep.count ≤ d.count
    · simp [Min.min, h]
    · simp [Min.min, h]
  · exact UInt64.le_refl _

/-- Which descriptors can be rolled: the numbers of dice and of sides are within their limits,
without sides there are neither dice nor a keep rule, and a keep rule keeps at least one die. -/
theorem validate_eq_ok_iff {d : Descriptor} :
    d.validate = .ok () ↔
      d.count ≤ maxDice ∧ d.sides ≤ maxSides ∧
        (d.sides = 0 → d.count = 0 ∧ d.keep = none) ∧
        ∀ keep, d.keep = some keep → keep.count ≠ 0 := by
  cases hkeep : d.keep <;> by_cases hsides : d.sides = 0 <;> by_cases hcount : d.count = 0 <;>
    simp_all [validate, ← UInt64.not_lt] <;> grind

end Descriptor
end DiceRoller
