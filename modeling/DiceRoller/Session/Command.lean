import DiceRoller.Text.Blank
import DiceRoller.Text.Decimal

/-!
# Commands

A line is a command: with a `!` in front it names one of eight verbs, whose argument is what follows
the first blank; any other line asks for a roll.

Main results:

- Theorem `Verb.mem_all`: the list of verbs is complete.
- Theorem `parse_roll`: a line that does not start with `!` asks for a roll.
-/

namespace DiceRoller

/-- What can be asked for with a `!`. -/
inductive Verb where
  | advantage
  | disadvantage
  | scan
  | annotate
  | pick
  | history
  | clear
  | help
  deriving DecidableEq, Repr

namespace Verb

/-- All verbs, in the order in which they are offered. -/
def all : List Verb :=
  [advantage, disadvantage, scan, annotate, pick, history, clear, help]

/-- The name under which a verb is offered. -/
def name : Verb → List Char
  | advantage => "!adv".toList
  | disadvantage => "!dis".toList
  | scan => "!scan".toList
  | annotate => "!annotate".toList
  | pick => "!pick".toList
  | history => "!history".toList
  | clear => "!clear".toList
  | help => "!help".toList

/-- The other name of a verb, if it has one. -/
def alias? : Verb → Option (List Char)
  | advantage => some "!advantage".toList
  | disadvantage => some "!disadvantage".toList
  | scan => some "!s".toList
  | annotate => some "!a".toList
  | pick => some "!p".toList
  | history => some "!h".toList
  | clear => none
  | help => some "!?".toList

/-- Whether a word is a name of the verb. -/
def isNamed (verb : Verb) (word : List Char) : Bool :=
  word == verb.name || verb.alias? == some word

/-- The verb of a name. -/
def find? (word : List Char) : Option Verb :=
  all.find? fun verb => verb.isNamed word

theorem mem_all (verb : Verb) : verb ∈ all := by
  cases verb <;> decide

theorem find?_name (verb : Verb) : find? verb.name = some verb := by
  cases verb <;> decide

end Verb

/-- A line that was understood. -/
inductive Command where
  | roll (formula : List Char)
  | advantage (modifier : Int64)
  | disadvantage (modifier : Int64)
  | scan (text : List Char)
  | annotate (text : List Char)
  | pick (number : UInt64)
  | history
  | clear
  | help
  deriving DecidableEq, Repr

/-- Why a line is no command. -/
inductive CommandFault where
  | badModifier (argument : List Char) (fault : Decimal.Fault)
  | badNumber (argument : List Char)
  | unknown (word : List Char)
  deriving DecidableEq, Repr

/-- The wording of a fault. -/
def CommandFault.message : CommandFault → String
  | badModifier argument fault =>
    s!"`{String.ofList argument}` is not a modifier: {fault.message}"
  | badNumber argument => s!"`{String.ofList argument}` is not a token number"
  | unknown word => s!"unknown command `{String.ofList word}`, try `!help`"

namespace Command

/-! ## Reading -/

/-- The modifier of an argument: zero without one, and with plain spaces anywhere in it. -/
def readModifier (argument : List Char) : Except CommandFault Int64 :=
  if argument.isEmpty then .ok 0
  else (Decimal.readSigned (argument.filter fun c => c != ' ')).mapError (.badModifier argument)

/-- The number of a token, counted from one. -/
def readNumber (argument : List Char) : Except CommandFault UInt64 :=
  match Decimal.readUnsigned argument with
  | .ok n => if n = 0 then .error (.badNumber argument) else .ok n
  | .error _ => .error (.badNumber argument)

/-- The command of a verb with its argument. -/
def ofVerb (verb : Verb) (argument : List Char) : Except CommandFault Command :=
  match verb with
  | .advantage => (readModifier argument).map .advantage
  | .disadvantage => (readModifier argument).map .disadvantage
  | .scan => .ok (.scan argument)
  | .annotate => .ok (.annotate argument)
  | .pick => (readNumber argument).map .pick
  | .history => .ok .history
  | .clear => .ok .clear
  | .help => .ok .help

/-- The first word of a line and what follows it, without the blanks around that. -/
def splitWord (line : List Char) : List Char × List Char :=
  match Text.splitAtBlank line with
  | some (word, rest) => (word, Text.trim rest)
  | none => (line, [])

/-- The command of a line without blanks around it. -/
def parseTrimmed (line : List Char) : Except CommandFault Command :=
  if line.head? = some '!' then
    let (word, argument) := splitWord line
    match Verb.find? word with
    | some verb => ofVerb verb argument
    | none => .error (.unknown word)
  else .ok (.roll line)

/-- The command of a line. -/
def parse (line : List Char) : Except CommandFault Command :=
  parseTrimmed (Text.trim line)

/-! ## Writing -/

/-- A verb with an argument. -/
def renderVerb (verb : Verb) (argument : List Char) : List Char :=
  verb.name ++ ' ' :: argument

/-- A line for a command. -/
def render : Command → List Char
  | roll formula => formula
  | advantage modifier => renderVerb .advantage (Decimal.signed modifier.toInt)
  | disadvantage modifier => renderVerb .disadvantage (Decimal.signed modifier.toInt)
  | scan text => renderVerb .scan text
  | annotate text => renderVerb .annotate text
  | pick number => renderVerb .pick (Decimal.digits number.toNat)
  | history => Verb.history.name
  | clear => Verb.clear.name
  | help => Verb.help.name

/-! ## First laws -/

/-- A line that does not start with `!` asks for a roll of what it says. -/
theorem parse_roll {line : List Char} (h : (Text.trim line).head? ≠ some '!') :
    parse line = .ok (.roll (Text.trim line)) := by
  rw [parse, parseTrimmed, if_neg h]

/-- Tokens are picked by numbers from one on. -/
theorem readNumber_ne_zero {argument : List Char} {n : UInt64}
    (h : readNumber argument = .ok n) : n ≠ 0 := by
  unfold readNumber at h
  split at h
  · split at h
    · cases h
    · cases h
      assumption
  · cases h

end Command
end DiceRoller
