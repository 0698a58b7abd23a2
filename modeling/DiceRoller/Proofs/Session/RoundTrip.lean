import Mathlib.Data.List.Basic
import DiceRoller.Proofs.Outcome
import DiceRoller.Proofs.Session.Spelling

/-!
# Commands and the lines written for them

A command can be written as a line: a formula as itself, a verb by its name with the argument behind
it.  Lines are read generously, with blanks of all kinds around words and with other names for the
verbs.  What they are read as is always a command whose texts have no blanks around them and whose
number counts from one, and these are exactly the commands that are read back from their own lines.

Main results:

- Theorem `isTrimmed_trim`: trimming leaves no blanks at the two ends.
- Theorem `wellFormed_of_parse`: what lines are read as.
- Theorem `parse_render_of_wellFormed`: commands are read back from their lines.
- Theorem `parse_render_iff`: the two together.
-/

namespace DiceRoller

namespace Text

/-- Behind trimming the end, the last character is no blank. -/
theorem isBlank_getLast?_trimEnd {cs : List Char} {c : Char}
    (h : (trimEnd cs).getLast? = some c) : isBlank c = false := by
  induction cs with
  | nil => cases h
  | cons d cs ih =>
    rw [trimEnd] at h
    split at h
    · split at h
      · cases h
      · rename_i hblank
        cases h
        simpa using hblank
    · rename_i hne
      rw [List.getLast?_cons_of_ne_nil hne] at h
      exact ih h

/-- Trimming leaves no blanks at the two ends. -/
theorem isTrimmed_trim (cs : List Char) : IsTrimmed (trim cs) := by
  refine ⟨?_, fun c hc => isBlank_getLast?_trimEnd hc⟩
  intro c hc
  -- Trimming the end leaves a beginning, so the first character stays.
  have hstart : (trimStart cs).head? = some c := by
    rcases prefix_trimEnd (trimStart cs) with ⟨rest, hrest⟩
    rw [← hrest, List.head?_append]
    show ((trim cs).head?.or rest.head?) = some c
    rw [hc]
    rfl
  have hnot := List.head?_dropWhile_not isBlank cs
  rw [← trimStart, hstart] at hnot
  simpa using hnot

end Text

namespace Command

/-! ## Well-formed commands -/

/-- A command whose texts have no blanks around them, whose formula is not taken for a verb, and
whose number counts from one. -/
def WellFormed : Command → Prop
  | roll formula => Text.IsTrimmed formula ∧ formula.head? ≠ some '!'
  | scan text => Text.IsTrimmed text
  | annotate text => Text.IsTrimmed text
  | pick number => 1 ≤ number.toNat
  | advantage _ | disadvantage _ | history | clear | help => True

/-- What follows the first word of a line has no blanks around it. -/
theorem isTrimmed_splitWord (line : List Char) : Text.IsTrimmed (splitWord line).2 := by
  rw [splitWord]
  split
  · exact Text.isTrimmed_trim _
  · exact Text.isTrimmed_nil

/-- A verb with an argument without blanks around it makes a well-formed command. -/
theorem wellFormed_of_ofVerb {verb : Verb} {argument : List Char} {command : Command}
    (hargument : Text.IsTrimmed argument) (h : ofVerb verb argument = .ok command) :
    command.WellFormed := by
  cases verb with
  | advantage =>
    rcases map_eq_ok_iff.1 h with ⟨modifier, -, rfl⟩
    trivial
  | disadvantage =>
    rcases map_eq_ok_iff.1 h with ⟨modifier, -, rfl⟩
    trivial
  | scan =>
    cases h
    exact hargument
  | annotate =>
    cases h
    exact hargument
  | pick =>
    rcases map_eq_ok_iff.1 h with ⟨number, hnumber, rfl⟩
    have hzero : number.toNat ≠ 0 := by
      intro hnat
      exact readNumber_ne_zero hnumber (UInt64.toNat_inj.1 hnat)
    exact Nat.one_le_iff_ne_zero.2 hzero
  | history =>
    cases h
    trivial
  | clear =>
    cases h
    trivial
  | help =>
    cases h
    trivial

/-- Whatever a line is read as is well-formed. -/
theorem wellFormed_of_parse {line : List Char} {command : Command}
    (h : parse line = .ok command) : command.WellFormed := by
  by_cases hsigil : (Text.trim line).head? = some '!'
  · rw [parse_of_sigil hsigil] at h
    split at h
    · exact wellFormed_of_ofVerb (isTrimmed_splitWord _) h
    · cases h
  · rw [parse_roll hsigil] at h
    cases h
    exact ⟨Text.isTrimmed_trim line, hsigil⟩

/-- No line picks the number zero. -/
theorem one_le_of_parse_pick {line : List Char} {number : UInt64}
    (h : parse line = .ok (.pick number)) : 1 ≤ number.toNat :=
  wellFormed_of_parse h

/-- A well-formed command is read back from the line that is written for it. -/
theorem parse_render_of_wellFormed {command : Command} (h : command.WellFormed) :
    parse command.render = .ok command := by
  cases command with
  | roll formula =>
    have htrim := h.1.trim_eq
    have hsigil : (Text.trim formula).head? ≠ some '!' := by
      rw [htrim]
      exact h.2
    rw [render, parse_roll hsigil, htrim]
  | advantage modifier =>
    rw [render, parse_renderVerb_signed, ofVerb, readModifier_signed]
    rfl
  | disadvantage modifier =>
    rw [render, parse_renderVerb_signed, ofVerb, readModifier_signed]
    rfl
  | scan text => exact parse_renderVerb .scan h
  | annotate text => exact parse_renderVerb .annotate h
  | pick number => exact parse_pick_of_toNat_eq h rfl
  | history => exact parse_of_trim_eq_name (Verb.isTrimmed_name .history).trim_eq
  | clear => exact parse_of_trim_eq_name (Verb.isTrimmed_name .clear).trim_eq
  | help => exact parse_of_trim_eq_name (Verb.isTrimmed_name .help).trim_eq

/-- Command lines round-trip.  Some line is read as a command exactly when the command is
well-formed, and then the line that is written for the command is such a line. -/
theorem parse_render_iff (command : Command) :
    ((∃ line, parse line = .ok command) ↔ command.WellFormed) ∧
      (parse command.render = .ok command ↔ command.WellFormed) := by
  refine ⟨⟨?_, ?_⟩, ⟨wellFormed_of_parse, parse_render_of_wellFormed⟩⟩
  · rintro ⟨line, hline⟩
    exact wellFormed_of_parse hline
  · intro h
    exact ⟨command.render, parse_render_of_wellFormed h⟩

/-- Blanks of other kinds, the long name and a spaced number: the command is written `!adv -3`. -/
example : parse "\u3000!advantage\u00a0- 3 ".toList = .ok (.advantage (-3)) := by
  rfl

end Command
end DiceRoller
