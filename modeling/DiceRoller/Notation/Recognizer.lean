import DiceRoller.Notation.Phrase

/-!
# The grammar rule by rule

The rules of dice notation, and a recognizer that tries them in order:

    number    =  digit+
    sign      =  "+" | "-"
    count     =  number
    sides     =  number
    keep_hi   =  "kh" number
    keep_lo   =  "kl" number
    modifier  =  sign number
    dice      =  count? "d" sides (keep_hi | keep_lo)? modifier?
    flat      =  sign? number
    notation  =  (dice | flat) EOI

Words are taken in either case, and white space may stand between the parts of a rule, though not in
a number.  Of the rules that fail the recognizer keeps those that failed furthest on in the text, which
is what a text that is no notation is reported with.

Main results:

- Theorem `suffix_of_recognize`: the recognizer leaves the end of the text that it was given.
-/

namespace DiceRoller

/-! ## Failed rules -/

/-- The rules that failed furthest on in a text, in the order in which they failed.  The place is told
by the number of characters left there. -/
structure Attempts where
  left : Nat
  rules : List GrammarRule
  deriving DecidableEq, Repr

namespace Attempts

/-- The rules that are kept for a place. -/
def rulesAt (attempts : Attempts) (left : Nat) : List GrammarRule :=
  if attempts.left = left then attempts.rules else []

/-- Keeps a rule that failed at a place for which `before` rules were kept when the rule began.  If
only one rule inside it failed there, that one tells more; several are replaced by the rule that they
are parts of. -/
def note (attempts : Attempts) (rule : GrammarRule) (left before : Nat) : Attempts :=
  if (attempts.rulesAt left).length = before + 1 then attempts
  else if left ≤ attempts.left then ⟨left, (attempts.rulesAt left).take before ++ [rule]⟩
  else attempts

end Attempts

/-! ## Grammars -/

/-- What a text, or a part of it, may look like. -/
inductive Grammar where
  | textStart
  | textEnd
  | digits
  | word (letters : List Char)
  | andThen (first second : Grammar)
  | orElse (first second : Grammar)
  | maybe (part : Grammar)
  | rule (name : GrammarRule) (body : Grammar)
  deriving Repr

namespace Grammar

/-- The text behind a word in lower case, which may be written with capitals. -/
def dropWord? : List Char → List Char → Option (List Char)
  | [], cs => some cs
  | _ :: _, [] => none
  | letter :: letters, c :: cs => if c.toLower = letter then dropWord? letters cs else none

/-- Tries a grammar on what is left of a text; tells what is left behind it, if it stands there, and
which rules have failed by then.  Only the grammar of a whole text begins with `textStart`. -/
def recognize : Grammar → List Char → Attempts → Option (List Char) × Attempts
  | textStart, cs, attempts => (some cs, attempts)
  | textEnd, [], attempts => (some [], attempts)
  | textEnd, _ :: _, attempts => (none, attempts)
  | digits, cs, attempts =>
    match Phrase.takeDigits cs with
    | ([], _) => (none, attempts)
    | (_, rest) => (some rest, attempts)
  | word letters, cs, attempts => (dropWord? letters cs, attempts)
  | andThen first second, cs, attempts =>
    match first.recognize cs attempts with
    | (none, attempts) => (none, attempts)
    | (some rest, attempts) => second.recognize (rest.dropWhile Char.isWhitespace) attempts
  | orElse first second, cs, attempts =>
    match first.recognize cs attempts with
    | (none, attempts) => second.recognize cs attempts
    | (some rest, attempts) => (some rest, attempts)
  | maybe part, cs, attempts =>
    match part.recognize cs attempts with
    | (none, attempts) => (some cs, attempts)
    | (some rest, attempts) => (some rest, attempts)
  | rule name body, cs, attempts =>
    match body.recognize cs attempts with
    | (none, inside) => (none, inside.note name cs.length (attempts.rulesAt cs.length).length)
    | (some rest, inside) => (some rest, inside)

variable {body : Grammar} {attempts after : Attempts} {cs rest : List Char}

/-- What stands behind a word is the end of the text. -/
theorem suffix_of_dropWord? {letters : List Char} (h : dropWord? letters cs = some rest) :
    rest <:+ cs := by
  induction letters generalizing cs with
  | nil => exact (Option.some.inj h) ▸ List.suffix_rfl
  | cons letter letters ih =>
    cases cs with
    | nil => cases h
    | cons c cs =>
      rw [dropWord?] at h
      split at h
      · exact (ih h).trans (List.suffix_cons c cs)
      · cases h

/-- What a recognizer leaves is the end of the text that it was given. -/
theorem suffix_of_recognize (h : body.recognize cs attempts = (some rest, after)) : rest <:+ cs := by
  induction body generalizing cs attempts rest after with
  | textStart =>
    cases h
    exact List.suffix_rfl
  | textEnd =>
    cases cs with
    | nil =>
      cases h
      exact List.suffix_rfl
    | cons c cs => cases h
  | digits =>
    rw [recognize] at h
    split at h
    · cases h
    · rename_i htaken
      cases h
      exact (Prod.mk.inj htaken).2 ▸ List.dropWhile_suffix _
  | word letters => exact suffix_of_dropWord? (Prod.mk.inj h).1
  | andThen first second ihfirst ihsecond =>
    rw [recognize] at h
    split at h
    · cases h
    · rename_i hfirst
      exact ((ihsecond h).trans (List.dropWhile_suffix _)).trans (ihfirst hfirst)
  | orElse first second ihfirst ihsecond =>
    rw [recognize] at h
    split at h
    · exact ihsecond h
    · rename_i hfirst
      cases h
      exact ihfirst hfirst
  | maybe part ih =>
    rw [recognize] at h
    split at h
    · cases h
      exact List.suffix_rfl
    · rename_i hpart
      cases h
      exact ih hpart
  | rule name body ih =>
    rw [recognize] at h
    split at h
    · cases h
    · rename_i hbody
      cases h
      exact ih hbody

/-! ## Dice notation -/

def number : Grammar :=
  rule .number digits

def sign : Grammar :=
  rule .sign (orElse (word ['+']) (word ['-']))

def count : Grammar :=
  rule .count number

def sides : Grammar :=
  rule .sides number

/-- A keep rule. -/
def keep (side : KeepEnd) : Grammar :=
  rule (.keep side) (andThen (word (Phrase.renderKeepEnd side)) number)

def keeps : Grammar :=
  maybe (orElse (keep .highest) (keep .lowest))

def modifier : Grammar :=
  rule .modifier (andThen sign number)

/-- What follows the `d` of a roll of dice. -/
def behindLetter : Grammar :=
  andThen sides (andThen keeps (maybe modifier))

def dice : Grammar :=
  rule .dice (andThen (maybe count) (andThen (word ['d']) behindLetter))

def flat : Grammar :=
  rule .flat (andThen (maybe sign) number)

def ending : Grammar :=
  rule .textEnd textEnd

/-- A whole text in dice notation. -/
def phrase : Grammar :=
  rule .phrase (andThen textStart (andThen (orElse dice flat) ending))

/-- The rules of a place in the order of the grammar, each of them once. -/
def inOrder (rules : List GrammarRule) : List GrammarRule :=
  GrammarRule.all.filter (· ∈ rules)

/-- Where a text that is no notation was refused: how many of its characters stand in front of the
furthest place at which a rule failed, and the rules that failed there, in order. -/
def failure? (cs : List Char) : Option (Nat × List GrammarRule) :=
  match phrase.recognize cs ⟨cs.length, []⟩ with
  | (some _, _) => none
  | (none, attempts) =>
    some (cs.length - attempts.left, inOrder attempts.rules)

end Grammar
end DiceRoller
