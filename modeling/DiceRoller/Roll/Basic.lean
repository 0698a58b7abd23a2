import DiceRoller.Dice.Descriptor
import DiceRoller.Text.Blank

/-!
# Rolls

A roll is what came of rolling a descriptor: every throw with the word whether it counts, the sum of
those that do, and the total with the modifier.  `Roll.render` writes it down for display; dropped
throws are struck through.
-/

namespace DiceRoller

/-- A throw, and whether it counts. -/
structure Outcome where
  value : UInt64
  kept : Bool
  deriving DecidableEq, Repr

/-- Whether a single twenty-sided die fell on one of its extremes. -/
inductive Critical where
  | success
  | fumble
  | none
  deriving DecidableEq, Repr

/-- The result of rolling a descriptor, with the label under which it was asked for. -/
structure Roll where
  descriptor : Descriptor
  label : List Char
  outcomes : List Outcome
  keptTotal : Int64
  total : Int64
  critical : Critical
  deriving DecidableEq, Repr

namespace Roll

/-- The throws that count. -/
def kept (roll : Roll) : List UInt64 :=
  (roll.outcomes.filter fun outcome => outcome.kept).map fun outcome => outcome.value

/-- The throws that do not count. -/
def dropped (roll : Roll) : List UInt64 :=
  (roll.outcomes.filter fun outcome => !outcome.kept).map fun outcome => outcome.value

/-! ## Display -/

/-- A throw, struck through if it does not count. -/
def renderOutcome (outcome : Outcome) : List Char :=
  if outcome.kept then Decimal.digits outcome.value.toNat
  else '~' :: '~' :: Decimal.digits outcome.value.toNat ++ ['~', '~']

/-- The throws in a row, with commas between them. -/
def renderOutcomes (outcomes : List Outcome) : List Char :=
  List.intercalate [',', ' '] (outcomes.map renderOutcome)

/-- The modifier set off from the throws; nothing for zero. -/
def renderModifier (modifier : Int64) : List Char :=
  if 0 < modifier then " + ".toList ++ Decimal.digits modifier.toInt.natAbs
  else if modifier < 0 then " - ".toList ++ Decimal.digits modifier.toInt.natAbs
  else []

/-- The remark about an extreme. -/
def renderCritical : Critical → List Char
  | .success => " *critical success*".toList
  | .fumble => " *fumble*".toList
  | .none => []

/-- The throws and the modifier, which a plain number does not have. -/
def renderDice (roll : Roll) : List Char :=
  if roll.descriptor.isFlat then []
  else " [".toList ++ renderOutcomes roll.outcomes ++ ']' :: renderModifier roll.descriptor.modifier

/-- A roll written down for display. -/
def render (roll : Roll) : List Char :=
  '`' :: Text.trim roll.label ++ '`' :: renderDice roll ++
    " = **".toList ++ Decimal.signed roll.total.toInt ++ "**".toList ++ renderCritical roll.critical

end Roll
end DiceRoller
