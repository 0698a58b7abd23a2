import DiceRoller.Text.Blank
import DiceRoller.Text.Lowercase

/-!
# Canonical notation

Blanks and capitals carry no meaning in dice notation, not even inside a number or a keyword, so they
go before anything is read: `4 D6 KH 3` and `4d6kh3` are the same notation.
-/

namespace DiceRoller
namespace Notation

/-- A notation without its blanks and in lower case. -/
def canonical (cs : List Char) : List Char :=
  (Text.dropBlanks cs).flatMap Text.lowercase

@[simp]
theorem canonical_nil : canonical [] = [] :=
  rfl

theorem canonical_append (xs ys : List Char) :
    canonical (xs ++ ys) = canonical xs ++ canonical ys := by
  simp [canonical, Text.dropBlanks]

/-- A blank leaves no trace. -/
theorem canonical_cons_of_isBlank {c : Char} (h : Text.isBlank c = true) (cs : List Char) :
    canonical (c :: cs) = canonical cs := by
  simp [canonical, Text.dropBlanks, h]

end Notation
end DiceRoller
