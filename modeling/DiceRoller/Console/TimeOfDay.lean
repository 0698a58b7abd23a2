import DiceRoller.Text.Decimal

/-!
# Time of day

The time of day in hours, minutes and seconds, each in two digits.

Main results:

- Theorem `length_ofSeconds`: every time of day takes eight characters.
-/

namespace DiceRoller
namespace TimeOfDay

/-- A number below a hundred in two digits. -/
def twoDigits (n : Nat) : List Char :=
  [Decimal.digitChar (n / 10 % 10), Decimal.digitChar (n % 10)]

/-- The time of day so many seconds after a midnight. -/
def ofSeconds (seconds : Nat) : List Char :=
  twoDigits (seconds / 3600 % 24) ++ ':' :: twoDigits (seconds / 60 % 60) ++
    ':' :: twoDigits (seconds % 60)

/-- Every time of day takes eight characters. -/
theorem length_ofSeconds (seconds : Nat) : (ofSeconds seconds).length = 8 :=
  rfl

example : String.ofList (ofSeconds 86399) = "23:59:59" := by decide

end TimeOfDay
end DiceRoller
