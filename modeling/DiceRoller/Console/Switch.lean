import DiceRoller.Console.Emphasis
import DiceRoller.Console.Environment
import DiceRoller.Roll.Log
import DiceRoller.Text.Decimal
import DiceRoller.Text.Similarity

/-!
# Switches

What can be asked for on the command line, how it is spelled, and the help that lists it.

Main results:

- Theorem `Switch.mem_all`: the list of switches is complete.
- Theorem `Switch.find?_long`: a switch is found by its long name.
- Theorem `Switch.column_eq`: what a switch is for starts at the same place in every line of the help.
-/

namespace DiceRoller

/-- What can be asked for on the command line. -/
inductive Switch where
  | debug
  | capacity
  | seed
  | historyFile
  | help
  | version
  deriving DecidableEq, Repr

namespace Switch

/-- All switches, in the order of the help. -/
def all : List Switch :=
  [debug, capacity, seed, historyFile, help, version]

/-- The name of a switch behind two dashes. -/
def long : Switch → List Char
  | debug => "debug".toList
  | capacity => "capacity".toList
  | seed => "seed".toList
  | historyFile => "history-file".toList
  | help => "help".toList
  | version => "version".toList

/-- The letter of a switch behind one dash. -/
def letter? : Switch → Option Char
  | debug => some 'd'
  | capacity => some 'c'
  | seed => some 's'
  | historyFile => none
  | help => some 'h'
  | version => some 'V'

/-- What the value of a switch is called, if it takes one. -/
def valueName? : Switch → Option (List Char)
  | capacity => some "CAPACITY".toList
  | seed => some "SEED".toList
  | historyFile => some "HISTORY_FILE".toList
  | _ => none

/-- The variable that gives the value of a switch where the command line does not. -/
def environmentName? : Switch → Option (List Char)
  | capacity => some "DICEMARK_HISTORY_CAPACITY".toList
  | seed => some "DICEMARK_SEED".toList
  | historyFile => some "DICEMARK_HISTORY_FILE".toList
  | _ => none

/-- The file that keeps the line history, unless another one is named. -/
def defaultHistoryFile : List Char :=
  ".dicemark_history".toList

/-- The value of a switch that nothing else gives. -/
def preset? : Switch → Option (List Char)
  | capacity => some (Decimal.digits Log.defaultCapacity)
  | historyFile => some defaultHistoryFile
  | _ => none

/-- What a switch is for. -/
def about : Switch → List Char
  | debug => "Enable Debug logging".toList
  | capacity => "Amount of rolls kept in the session history".toList
  | seed => "Seed the dice for reproducible sessions".toList
  | historyFile => "File keeping the line editor history".toList
  | help => "Print help".toList
  | version => "Print version".toList

/-- Whether a switch takes a value. -/
def takesValue (switch : Switch) : Bool :=
  switch.valueName?.isSome

/-- The switch with a long name. -/
def find? (name : List Char) : Option Switch :=
  all.find? fun switch => switch.long == name

/-- The switch with a letter. -/
def ofLetter? (c : Char) : Option Switch :=
  all.find? fun switch => switch.letter? == some c

/-- The similarity above which a switch is suggested for a name. -/
def nearness : Float := 0.7

/-- The switch whose long name is most similar to a name, if one is near; of two the later one. -/
def nearest? (name : List Char) : Option Switch :=
  all.foldl
    (fun best switch =>
      let similarity := Text.jaro name switch.long
      let isBest := best.all fun other => Text.jaro name (long other) ≤ similarity
      if nearness < similarity ∧ isBest then some switch else best)
    none

theorem mem_all (switch : Switch) : switch ∈ all := by
  cases switch <;> decide

/-- A switch is found by its long name. -/
theorem find?_long (switch : Switch) : find? switch.long = some switch := by
  cases switch <;> decide

/-! ## Spelling -/

/-- The long name of a switch as it is typed. -/
def dashed (switch : Switch) : List Char :=
  "--".toList ++ switch.long

/-- The name of the value of a switch, if it takes one, between angles. -/
def valueNote (switch : Switch) : List Char :=
  match switch.valueName? with
  | some name => " <".toList ++ name ++ ['>']
  | none => []

/-- A switch as it is typed, with the name of its value. -/
def usage (switch : Switch) : List Char :=
  switch.dashed ++ switch.valueNote

/-- A switch as it is typed, with the name of its value, the typed part set off. -/
def markedUsage (switch : Switch) : List Char :=
  Emphasis.verbatim.mark switch.dashed ++ switch.valueNote

/-- Whether a switch sets something for a session. -/
def isSetting : Switch → Bool
  | help | version => false
  | _ => true

/-! ## Help -/

/-- The width of the widest usage. -/
def widest : Nat :=
  (all.map fun switch => switch.usage.length).foldl max 0

/-- The letter of a switch in the help, or the room for it. -/
def letterNote (switch : Switch) : List Char :=
  match switch.letter? with
  | some c => "  ".toList ++ Emphasis.verbatim.mark ['-', c] ++ ", ".toList
  | none => "      ".toList

/-- The column of the help in which it says what a switch is for. -/
def column : Nat :=
  widest + 8

/-- A text that goes on in the column of the help after each line feed. -/
def indent (cs : List Char) : List Char :=
  cs.flatMap fun c => if c = '\n' then c :: List.replicate column ' ' else [c]

/-- What a switch is for, the variable that it is read from with its value, and what it is otherwise. -/
def note (env : Environment) (switch : Switch) : List Char :=
  switch.about ++
    (match switch.environmentName? with
    | some name => " [env: ".toList ++ name ++ '=' :: indent ((env.get? name).getD []) ++ [']']
    | none => []) ++
    match switch.preset? with
    | some value => " [default: ".toList ++ value ++ [']']
    | none => []

/-- The start of the line of a switch in the help, up to what it is for. -/
def helpHead (switch : Switch) : List Char :=
  switch.letterNote ++ switch.markedUsage ++
    List.replicate (widest - switch.usage.length) ' ' ++ "  ".toList

/-- A switch in the help. -/
def helpLine (env : Environment) (switch : Switch) : List Char :=
  switch.helpHead ++ switch.note env ++ ['\n']

/-- What a switch is for starts at the same place in every line of the help. -/
theorem column_eq (switch : Switch) : (Text.visible switch.helpHead).length = column := by
  cases switch <;> decide +kernel

end Switch

/-- The name of the program. -/
def programName : List Char :=
  Emphasis.verbatim.mark "dicemark-repl".toList

/-- How the program is called, with the given switches or with any. -/
def synopsis (switches : List Switch) : List Char :=
  programName ++
    if switches.isEmpty then " [OPTIONS]".toList
    else switches.flatMap fun switch => ' ' :: switch.markedUsage

/-- How the program is called with one of all settings, and with a switch that is none of them. -/
def settingSynopsis (switch : Switch) : List Char :=
  programName ++ (if switch.isSetting then [] else ' ' :: switch.markedUsage) ++ " <".toList ++
    ['|'].intercalate ((Switch.all.filter Switch.isSetting).map Switch.usage) ++ ['>']

/-- The word in front of a synopsis. -/
def usageHeading : List Char :=
  Emphasis.heading.mark "Usage:".toList ++ [' ']

/-- The help. -/
def helpPage (env : Environment) : List Char :=
  "Interactive dice roller and stat block scanner\n\n".toList ++ usageHeading ++ synopsis [] ++
    "\n\n".toList ++ Emphasis.heading.mark "Options:".toList ++
    '\n' :: Switch.all.flatMap (Switch.helpLine env)

/-- Name and version of the program. -/
def versionLine : List Char :=
  "dicemark-repl 0.1.0\n".toList

end DiceRoller
