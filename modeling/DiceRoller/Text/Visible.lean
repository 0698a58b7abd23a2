/-!
# Visible text

What is left of a text when the sequences that steer a terminal are taken out.  An escape character
starts a sequence.  With a bracket behind it the sequence goes on to its final letter; strings for the
terminal go on to their terminator; a cancelling character or the next escape character breaks off any
of them.  Of all other control characters only those that lay out a text are left.

Main results:

- Theorem `isShown_of_mem_visible`: what is left is made of characters that are shown.
- Theorem `visible_of_isShown`: a text that is made of such characters is left as it is.
- Theorem `visible_visible`: what was visible once stays visible.
-/

namespace DiceRoller
namespace Text

/-- Whether a character lays out a text: a tabulator, a line feed, a form feed or a carriage return. -/
def isLayout (c : Char) : Bool :=
  c == '\t' || c == '\n' || c == '\x0c' || c == '\r'

/-- Whether a character is shown: every one but the ASCII control characters that lay out nothing. -/
def isShown (c : Char) : Bool :=
  isLayout c || (0x20 ≤ c.toNat && c.toNat ≠ 0x7f)

/-- Whether a character comes between an escape character and the end of its sequence. -/
def isIntermediate (c : Char) : Bool :=
  0x20 ≤ c.toNat && c.toNat ≤ 0x2f

/-- Whether a character belongs to the numbers in a sequence. -/
def isParameter (c : Char) : Bool :=
  0x30 ≤ c.toNat && c.toNat ≤ 0x3f

/-- Whether a character is one of the signs that only the first number may have. -/
def isPrivateSign (c : Char) : Bool :=
  0x3c ≤ c.toNat && c.toNat ≤ 0x3f

/-- Whether a character ends a sequence. -/
def isFinal (c : Char) : Bool :=
  0x40 ≤ c.toNat && c.toNat ≤ 0x7e

/-- Whether a terminator is among the bytes of a character. -/
def holdsTerminator (c : Char) : Bool :=
  (String.utf8EncodeChar c).contains 0x9c

/-- Where in a sequence a reader is: outside, behind an escape character, behind an intermediate one,
behind a bracket, in a command that ends with a bell, in the head of a device string, or in a string
that goes on to its terminator. -/
inductive Steering where
  | outside
  | escaped
  | intermediate
  | bracketed
  | command
  | head
  | headNumbers
  | headIntermediate
  | string
  deriving DecidableEq, Repr

namespace Steering

/-- Reads a character behind an escape character: where the reader is then, and whether the character
is shown. -/
def readEscaped (c : Char) : Steering × Bool :=
  if isLayout c then (outside, true)
  else if isIntermediate c then (intermediate, false)
  else
    match c with
    | '[' => (bracketed, false)
    | ']' => (command, false)
    | 'P' => (head, false)
    | 'X' | '^' | '_' => (string, false)
    | c => (if isParameter c || isFinal c then outside else escaped, false)

/-- Reads a character of a sequence: where the reader is then, and whether the character is shown. -/
def readWithin (c : Char) : Steering → Steering × Bool
  | outside => (outside, isShown c)
  | escaped => readEscaped c
  | intermediate =>
    if isLayout c then (outside, true)
    else (if isParameter c || isFinal c then outside else intermediate, false)
  | bracketed =>
    if isLayout c then (outside, true)
    else (if isFinal c then outside else bracketed, false)
  | command => (if c = '\x07' then outside else command, false)
  | head =>
    (if isIntermediate c then headIntermediate
      else if isParameter c then headNumbers
      else if isFinal c then string
      else head, false)
  | headNumbers =>
    (if isIntermediate c then headIntermediate
      else if isPrivateSign c || isFinal c then string
      else headNumbers, false)
  | headIntermediate => (if isParameter c || isFinal c then string else headIntermediate, false)
  | string => (if holdsTerminator c then outside else string, false)

/-- Reads a character: where the reader is then, and whether the character is shown. -/
def read (steering : Steering) (c : Char) : Steering × Bool :=
  if c = '\x18' ∨ c = '\x1a' then (outside, false)
  else if c = '\x1b' then (escaped, false)
  else steering.readWithin c

end Steering

/-- What is left of a text behind a part of it. -/
def visibleFrom (steering : Steering) : List Char → List Char
  | [] => []
  | c :: cs =>
    let rest := visibleFrom (steering.read c).1 cs
    if (steering.read c).2 then c :: rest else rest

/-- What is left of a text when the sequences that steer a terminal are taken out. -/
def visible (cs : List Char) : List Char :=
  visibleFrom .outside cs

/-- Only a character that is shown is left. -/
theorem Steering.isShown_of_read {steering : Steering} {c : Char}
    (h : (steering.read c).2 = true) : isShown c = true := by
  have hlayout : isLayout c = true → isShown c = true := fun hc => by simp [isShown, hc]
  rw [read] at h
  split at h
  · cases h
  · split at h
    · cases h
    · cases steering <;> simp only [readWithin, readEscaped] at h
      · exact h
      · split at h
        · rename_i hc
          exact hlayout hc
        · split at h
          · cases h
          · split at h <;> cases h
      · split at h
        · rename_i hc
          exact hlayout hc
        · cases h
      · split at h
        · rename_i hc
          exact hlayout hc
        · cases h
      all_goals cases h

/-- What is left is made of characters that are shown. -/
theorem isShown_of_mem_visible {cs : List Char} {c : Char} (h : c ∈ visible cs) :
    isShown c = true := by
  rw [visible] at h
  generalize Steering.outside = steering at h
  induction cs generalizing steering with
  | nil => cases h
  | cons d cs ih =>
    rw [visibleFrom] at h
    split at h
    · rename_i hshown
      cases h with
      | head => exact Steering.isShown_of_read hshown
      | tail _ htail => exact ih _ htail
    · exact ih _ h

/-- A character that is shown is left outside of any sequence. -/
theorem Steering.read_outside {c : Char} (h : isShown c = true) :
    outside.read c = (outside, true) := by
  rw [read, if_neg, if_neg, readWithin, h]
  · rintro rfl
    revert h
    decide
  · rintro (rfl | rfl) <;> revert h <;> decide

/-- A text that is made of characters that are shown is left as it is. -/
theorem visible_of_isShown {cs : List Char} (h : ∀ c ∈ cs, isShown c = true) : visible cs = cs := by
  rw [visible]
  induction cs with
  | nil => rfl
  | cons c cs ih =>
    rw [visibleFrom, Steering.read_outside (h c List.mem_cons_self)]
    simp only [if_true]
    rw [ih fun d hd => h d (List.mem_cons_of_mem _ hd)]

/-- What was visible once stays visible. -/
theorem visible_visible (cs : List Char) : visible (visible cs) = visible cs :=
  visible_of_isShown fun _ => isShown_of_mem_visible

example : visible "\x1b[31mred\x1b[0m\x07".toList = "red".toList := by decide +kernel

end Text
end DiceRoller
