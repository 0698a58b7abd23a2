import DiceRoller.Dice.Descriptor
import DiceRoller.Notation.Phrase

/-!
# Values of a phrase

A phrase has the right form; its numbers may still be too large, or ask for dice without sides.
The numbers are read first, from left to right, and their limits are looked at after that.
-/

namespace DiceRoller

/-- What is wrong with the numbers of a notation. -/
inductive ValueFault where
  | number (digits : List Char) (fault : Decimal.Fault)
  | tooManyDice
  | noSides
  | tooManySides
  | keepsNone
  deriving DecidableEq, Repr

/-- The wording of a fault. -/
def ValueFault.message : ValueFault → String
  | number digits fault => s!"`{String.ofList digits}` {fault.message}"
  | tooManyDice => s!"exceeded max allowed amount of dices `{maxDice}`"
  | noSides => "dice need at least one side"
  | tooManySides => s!"exceeded max allowed number of dice sides `{maxSides}`"
  | keepsNone => "can't keep zero dice"

namespace Phrase

/-- The number that a run of digits stands for. -/
def readCount (digits : List Char) : Except ValueFault UInt64 :=
  (Decimal.readUnsigned digits).mapError (.number digits)

/-- The number that digits with a sign stand for. -/
def readModifier (sign : Option Sign) (digits : List Char) : Except ValueFault Int64 :=
  match sign with
  | some .minus => (Decimal.readSigned ('-' :: digits)).mapError (.number digits)
  | _ => (Decimal.readSigned digits).mapError (.number digits)

/-- The keep rule that is written down. -/
def readKeep : Option KeepDigits → Except ValueFault (Option Keep)
  | none => .ok none
  | some ⟨.highest, digits⟩ => (readCount digits).map fun n => some (.high n)
  | some ⟨.lowest, digits⟩ => (readCount digits).map fun n => some (.low n)

/-- The modifier that is written down, zero without one. -/
def readOptional : Option SignedDigits → Except ValueFault Int64
  | none => .ok 0
  | some ⟨sign, digits⟩ => readModifier (some sign) digits

/-- Refuses numbers of dice, sides and kept dice that no roll can have. -/
def checkLimits (count sides : UInt64) (keep : Option Keep) : Except ValueFault Unit :=
  if maxDice < count then .error .tooManyDice
  else if sides = 0 then .error .noSides
  else if maxSides < sides then .error .tooManySides
  else if keep.any (fun keep => keep.count = 0) then .error .keepsNone
  else .ok ()

/-- The descriptor that a phrase stands for; without a count there is one die. -/
def descriptor (canonical : List Char) : Phrase → Except ValueFault Descriptor
  | dice count sides keep modifier => do
    let count ← if count.isEmpty then .ok 1 else readCount count
    let sides ← readCount sides
    let keep ← readKeep keep
    let modifier ← readOptional modifier
    checkLimits count sides keep
    .ok ⟨count, sides, keep, modifier, canonical⟩
  | flat sign digits => do
    let modifier ← readModifier sign digits
    .ok ⟨0, 0, none, modifier, canonical⟩

end Phrase
end DiceRoller
