import DiceRoller.Console.Tint
import DiceRoller.Text.Visible

/-!
# Emphasis

How the messages about the arguments set off their parts, each in a style of its own.  A terminal that
takes no styles is shown what is left without them.

Main results:

- Theorem `visible_mark`: without styles a part is shown as it is.
-/

namespace DiceRoller

/-- What a part of a message is: the word that announces a fault, a heading, something to be typed as
it stands, something that was right and something that was not. -/
inductive Emphasis where
  | fault
  | heading
  | verbatim
  | right
  | wrong
  deriving DecidableEq, Repr

namespace Emphasis

/-- Switches a style on. -/
def sequence : Emphasis → List Char
  | fault => "\x1b[1m\x1b[31m".toList
  | heading => "\x1b[1m\x1b[4m".toList
  | verbatim => "\x1b[1m".toList
  | right => "\x1b[32m".toList
  | wrong => "\x1b[33m".toList

/-- A part of a message in its style. -/
def mark (emphasis : Emphasis) (cs : List Char) : List Char :=
  emphasis.sequence ++ cs ++ Tint.reset

/-- A part of a message in its style, between quotes. -/
def quote (emphasis : Emphasis) (cs : List Char) : List Char :=
  '\'' :: emphasis.mark cs ++ ['\'']

/-- A message as it is shown with or without styles. -/
def shown (styled : Bool) (message : List Char) : List Char :=
  if styled then message else Text.visible message

/-- Without styles a part is shown as it is. -/
theorem visible_mark (emphasis : Emphasis) {cs : List Char}
    (h : ∀ c ∈ cs, Text.isShown c = true) : Text.visible (emphasis.mark cs) = cs := by
  have hopen : ∀ rest, Text.visible (emphasis.sequence ++ rest) = Text.visible rest := by
    intro rest
    cases emphasis <;> rfl
  rw [mark, List.append_assoc, hopen, Text.visible]
  induction cs with
  | nil => rfl
  | cons c cs ih =>
    rw [List.cons_append, Text.visibleFrom, Text.Steering.read_outside (h c List.mem_cons_self)]
    simp only [if_true]
    rw [ih fun d hd => h d (List.mem_cons_of_mem _ hd)]

end Emphasis
end DiceRoller
