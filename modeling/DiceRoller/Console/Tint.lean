/-!
# Tints

Colours for a terminal: a tint is switched on by its own sequence of characters and off by the common
reset.

Main results:

- Theorem `paint_plain`: without colours a text is as it was.
- Theorem `renew_of_not_mem`: a text without escape characters is put between the sequences unchanged.
-/

namespace DiceRoller

/-- The ways in which text is set off: tokens in cyan, suggestions dimmed, plain replies in magenta,
the end of the input in bold yellow and faults in bold red. -/
inductive Tint where
  | cyan
  | dimmed
  | magenta
  | boldYellow
  | boldRed
  deriving DecidableEq, Repr

namespace Tint

/-- Switches a tint on. -/
def sequence : Tint → List Char
  | cyan => "\x1b[36m".toList
  | dimmed => "\x1b[2m".toList
  | magenta => "\x1b[35m".toList
  | boldYellow => "\x1b[1;33m".toList
  | boldRed => "\x1b[1;31m".toList

/-- Switches every tint off. -/
def reset : List Char :=
  "\x1b[0m".toList

/-- Repeats a sequence behind every reset of a text, so that the tint goes on there. -/
def renew (sequence : List Char) : List Char → List Char
  | [] => []
  | '\x1b' :: '[' :: '0' :: 'm' :: cs => reset ++ sequence ++ renew sequence cs
  | c :: cs => c :: renew sequence cs

/-- A text in a tint; as it is when colours are off. -/
def paint (coloured : Bool) (tint : Tint) (cs : List Char) : List Char :=
  if coloured then tint.sequence ++ renew tint.sequence cs ++ reset else cs

/-- Without colours a text is as it was. -/
@[simp]
theorem paint_plain (tint : Tint) (cs : List Char) : paint false tint cs = cs :=
  rfl

/-- A text without the character that starts a reset is not changed. -/
theorem renew_of_not_mem {cs : List Char} (h : '\x1b' ∉ cs) (sequence : List Char) :
    renew sequence cs = cs := by
  induction cs with
  | nil => rfl
  | cons c cs ih =>
    have hc : c ≠ '\x1b' := fun hc => h (hc ▸ List.mem_cons_self)
    rw [renew, ih fun hcs => h (List.mem_cons_of_mem _ hcs)]
    rintro rest rfl
    exact absurd rfl hc

end Tint
end DiceRoller
