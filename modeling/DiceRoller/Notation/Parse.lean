import DiceRoller.Error
import DiceRoller.Notation.Canonical

/-!
# Reading dice notation

From a notation as typed to a descriptor: it is made canonical, read as a phrase, and its numbers are
read and checked.
-/

namespace DiceRoller

/-- The descriptor that a notation stands for. -/
def Descriptor.parse (cs : List Char) : Except Error Descriptor := do
  let canonical := Notation.canonical cs
  let phrase ← (Phrase.parse canonical).mapError .grammar
  (phrase.descriptor canonical).mapError .value

end DiceRoller
