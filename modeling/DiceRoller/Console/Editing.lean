import DiceRoller.Session.Command
import DiceRoller.Text.Bytes

/-!
# Editing a line

What the line editor is told while a line is typed: the verbs that complete it, the prompt to show,
whether a key press needs a new picture of the line, and that nothing is checked before the line ends.

Main results:

- Theorem `mem_completions`: a typed word is completed to the verbs whose names start with it.
-/

namespace DiceRoller

namespace Verb

/-- The verbs whose names start with what was typed; none as long as nothing was. -/
def completions (typed : List Char) : List Verb :=
  if typed.isEmpty then [] else all.filter fun verb => typed.isPrefixOf verb.name

/-- What a verb is completed to: its name, ready for an argument. -/
def completed (verb : Verb) : List Char :=
  verb.name ++ [' ']

/-- A typed word is completed to the verbs whose names start with it. -/
theorem mem_completions {typed : List Char} (h : typed ≠ []) (verb : Verb) :
    verb ∈ completions typed ↔ typed <+: verb.name := by
  rw [completions, if_neg (by simpa using h), List.mem_filter, List.isPrefixOf_iff_prefix]
  simp [mem_all]

end Verb

/-- What can stand in place of a line from a byte on up to the cursor. -/
structure Completion where
  start : Nat
  candidates : List Verb
  deriving DecidableEq, Repr

/-- The completion of a line with the cursor at a byte: a verb takes the place of all before it. -/
def complete (line : List Char) (cursor : Nat) : Completion :=
  ⟨0, Verb.completions (Text.splitAtByte cursor line).1⟩

/-- The prompt that is shown: the usual one has colours, a special one stays as it is. -/
def shownPrompt (coloured prompt : List Char) (isUsual : Bool) : List Char :=
  if isUsual then coloured else prompt

/-- Whether a key press calls for a new picture of the line. -/
def needsRepaint (line : List Char) : Bool :=
  !line.isEmpty

/-- Whether a line is checked while it is typed. -/
def checksWhileTyping : Bool :=
  false

end DiceRoller
