import DiceRoller.Notation.Value

/-!
# Errors of a roll

Everything that can go wrong between a typed notation and its result: the notation has the wrong
form, its numbers cannot be rolled, a descriptor cannot be rolled, or the throws themselves go wrong.
-/

namespace DiceRoller

/-- Why there is no roll. -/
inductive Error where
  | grammar (fault : GrammarFault)
  | value (fault : ValueFault)
  | descriptor (fault : DescriptorFault)
  | badThrow (thrown sides : UInt64)
  | keptTotalOverflow
  | totalOverflow
  deriving DecidableEq, Repr

namespace Error

/-- The wording of an error. -/
def message : Error → String
  | grammar fault => fault.message
  | value fault => "invalid notation: " ++ fault.message
  | descriptor fault => "invalid descriptor: " ++ fault.message
  | badThrow thrown sides => s!"source threw {thrown} for a {sides} sided dice"
  | keptTotalOverflow => "kept total overflows"
  | totalOverflow => "total overflows"

/-- Whether a notation was refused, for its form or for its numbers. -/
def isInvalidNotation : Error → Bool
  | grammar _ => true
  | value _ => true
  | _ => false

end Error
end DiceRoller
