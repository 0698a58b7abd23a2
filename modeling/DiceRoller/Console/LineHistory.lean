import DiceRoller.Roll.Log
import DiceRoller.Text.Blank
import DiceRoller.Text.Bytes

/-!
# Line history

The line editor remembers the last hundred lines.  It skips a line that is empty or that repeats the
line before it, and on request one that starts with a blank.  While a line is typed, the newest
remembered line that starts with it is suggested.

Main results:

- Theorem `add_of_not_accepts`: a line that is skipped changes nothing.
- Theorem `append_hint`: what was typed and its suggestion make up a remembered line.
-/

namespace DiceRoller

/-- The lines that the line editor remembers, and whether it skips those that start with a blank. -/
structure LineHistory where
  skipsIndented : Bool
  log : Log (List Char)

namespace LineHistory

/-- The number of lines that are remembered. -/
def limit : Nat := 100

/-- A history without lines. -/
def empty (skipsIndented : Bool) : LineHistory :=
  ⟨skipsIndented, .empty limit⟩

/-- Whether a line will be remembered. -/
def accepts (history : LineHistory) (line : List Char) : Bool :=
  !line.isEmpty && !(history.skipsIndented && line.head?.any Text.isBlank) &&
    history.log.latest? != some line

/-- Remembers a line, unless it is skipped. -/
def add (history : LineHistory) (line : List Char) : LineHistory :=
  if history.accepts line then { history with log := history.log.record line } else history

/-- Remembers lines, one after the other. -/
def addAll (history : LineHistory) (lines : List (List Char)) : LineHistory :=
  lines.foldl add history

/-- The remembered lines, oldest first. -/
def lines (history : LineHistory) : List (List Char) :=
  history.log.entries.reverse

/-- The last few of the remembered lines, oldest first. -/
def lastLines (history : LineHistory) (count : Nat) : List (List Char) :=
  (history.log.entries.take count).reverse

/-- The rest of the newest line that starts with what was typed.  There is none while the cursor is
before the end, and none when that line is what was typed. -/
def hint (history : LineHistory) (typed : List Char) (cursor : Nat) : Option (List Char) :=
  if typed.isEmpty || cursor < Text.byteLength typed then none
  else
    match history.log.entries.find? fun line => typed.isPrefixOf line with
    | some line => if line = typed then none else some (line.drop typed.length)
    | none => none

/-- A line that is skipped changes nothing. -/
theorem add_of_not_accepts {history : LineHistory} {line : List Char}
    (h : history.accepts line = false) : history.add line = history := by
  rw [add, h]
  rfl

/-- What was typed and its suggestion make up a remembered line. -/
theorem append_hint {history : LineHistory} {typed suggestion : List Char} {cursor : Nat}
    (h : history.hint typed cursor = some suggestion) :
    typed ++ suggestion ∈ history.log.entries := by
  unfold hint at h
  split at h
  · cases h
  · split at h
    · rename_i line hfound
      split at h
      · cases h
      · simp only [Option.some.injEq] at h
        have hstart := List.find?_some hfound
        rw [List.isPrefixOf_iff_prefix] at hstart
        rw [← h, List.prefix_iff_eq_append.1 hstart]
        exact List.mem_of_find?_eq_some hfound
    · cases h

end LineHistory
end DiceRoller
