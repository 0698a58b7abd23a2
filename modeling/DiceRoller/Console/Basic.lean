import DiceRoller.Console.Arguments
import DiceRoller.Console.EnvironmentFile
import DiceRoller.Console.Folder
import DiceRoller.Console.Input
import DiceRoller.Console.Output
import DiceRoller.Console.StoredHistory
import DiceRoller.Session.Basic

/-!
# The console

The console holds a session and the line history.  It reads line after line: a blank line is passed
over, any other line goes to the session, and the answer is shown, whatever it is.  Only the line reader
ends it: at the end of the input, when the user breaks off, or when reading fails, as it does for a line
that is not UTF-8.

Main results:

- Theorem `enter_of_blank`: a blank line does not reach the session.
- Theorem `session_enter`: any other line leaves the session as the session itself leaves it.
- Theorem `runLines_ok`: after a line the console goes on with what is read behind it.
- Theorem `runLines_error`: after an ending it does not.
-/

namespace DiceRoller

/-- The state between two lines: whether a prompt is shown, whether colours are on, the number of the
next line, the session, the line history and how many of its lines are new. -/
structure Console where
  prompts : Bool
  coloured : Bool
  number : Nat
  session : Session
  history : LineHistory
  fresh : Nat

namespace Console

/-! ## Opening -/

/-- The terminals on which lines cannot be edited. -/
def plainTerminals : List (List Char) :=
  ["dumb".toList, "cons25".toList, "emacs".toList]

/-- Whether lines cannot be edited on the terminal that the environment names. -/
def isPlainTerminal (env : Environment) : Bool :=
  match env.get? "TERM".toList with
  | some name => plainTerminals.contains (name.map Char.toLower)
  | none => false

/-- The dice of a session and what is logged about them. -/
def chooseDice (arguments : Arguments) (unseeded : Generator) : Generator × List Output :=
  match arguments.seed with
  | some seed =>
    (.ofSeed seed, Output.logged .info ("Seeded dice seed=".toList ++ Decimal.digits seed.toNat))
  | none => (unseeded, [])

/-- Log lines for lines of a stored history whose escapes are wrong. -/
def warnBadlyEscaped (lines : List (List Char)) : List Output :=
  lines.flatMap fun line => Output.logged .warning ("bad escaped line: ".toList ++ line)

/-- The line history of a file and what is logged about it. -/
def loadHistory (path : List Char) (stored : Option (List Char)) : LineHistory × List Output :=
  match stored with
  | some content =>
    let loaded := StoredHistory.load content
    (loaded.history, warnBadlyEscaped loaded.badlyEscaped)
  | none =>
    (StoredHistory.blank,
      Output.logged .warning ("No previous history in `".toList ++ path ++ ['`']))

/-- Whether prompts are shown: the line reader shows them on a terminal, and also where the environment
names one on which lines cannot be edited. -/
def showsPrompts (env : Environment) (isTerminal : Bool) : Bool :=
  isPlainTerminal env || isTerminal

/-- A log line for an environment file that did not give all its variables. -/
def traceFault (fault : Option EnvironmentFault) : List Output :=
  match fault with
  | some fault => Output.logged .debug ("No `.env` file: ".toList ++ fault.message)
  | none => []

/-- Opens a console, given the environment with what went wrong with its file, whether lines come from a
terminal, the dice to roll without a seed, and the stored history. -/
def start (env : Environment × Option EnvironmentFault) (isTerminal : Bool) (arguments : Arguments)
    (unseeded : Generator) (stored : Option (List Char)) : Console × List Output :=
  let dice := chooseDice arguments unseeded
  let history := loadHistory arguments.historyFile stored
  (⟨showsPrompts env.1 isTerminal, env.1.forcesColours, 1, .start dice.1 arguments.capacity.toNat,
      history.1, 0⟩,
    traceFault env.2 ++ dice.2 ++ history.2)

/-! ## Lines -/

/-- The prompt for the next line, where one is shown. -/
def prompt (console : Console) : List Output :=
  if console.prompts then
    [.standard ("dicemark: ".toList ++ Decimal.digits console.number ++ "> ".toList)]
  else []

/-- Remembers a line and counts it. -/
def remember (line : List Char) (console : Console) : Console :=
  { console with
    number := console.number + 1
    history := console.history.add line
    fresh := if console.history.accepts line then console.fresh + 1 else console.fresh }

/-- Takes in a line at the given time of day. -/
def enter (now line : List Char) (console : Console) : Console × List Output :=
  let console := console.remember line
  if Text.isAllBlank line then (console, [])
  else
    let answer := console.session.run now line
    ({ console with session := answer.2 },
      Output.tracing line answer.1 ++ Output.ofAnswer console.coloured answer.1)

/-- The tint of an ending. -/
def endingTint : Ending → Tint
  | .failed _ => .boldRed
  | _ => .boldYellow

/-- What is shown for an ending. -/
def showEnding (coloured : Bool) (ending : Ending) : List Output :=
  [.errorLine ((endingTint ending).paint coloured ending.message)]

/-- Takes in what was read at the given time of day. -/
def take (now : List Char) (console : Console) (reading : Except Ending (List Char)) :
    Console × List Output :=
  match reading with
  | .ok line => console.enter now line
  | .error ending => (console, showEnding console.coloured ending)

/-- Takes in what is read, up to the first ending.  The clock tells the time of day at which it is
read. -/
def runLines (clock : Nat → List Char) (console : Console) :
    List (Except Ending (List Char)) → Console × List Output
  | [] => (console, console.prompt ++ showEnding console.coloured .endOfInput)
  | reading :: others =>
    let taken := console.take (clock console.number) reading
    if reading.isOk then
      let rest := runLines clock taken.1 others
      (rest.1, console.prompt ++ taken.2 ++ rest.2)
    else (taken.1, console.prompt ++ taken.2)

/-! ## Closing -/

/-- The log line at the end. -/
def closingLog (session : Session) : Output :=
  .log .info ("Session over rolls=".toList ++ Decimal.digits session.log.size ++
    " capacity=".toList ++ Decimal.digits session.log.capacity)

/-- What is to be stored at the end, given what is stored. -/
def saved (console : Console) (stored : Option (List Char)) : Option StoredHistory.Saved :=
  StoredHistory.save stored console.history console.fresh

/-- The exit code and what is shown at the end, given whether the line history could be written. -/
def settle (saved : StoredHistory.Saved) (written : Except StorageFault Unit) :
    UInt32 × List Output :=
  match written with
  | .ok () => (0, warnBadlyEscaped saved.badlyEscaped)
  | .error fault => (1, [.errorLine ("Error: ".toList ++ fault.message.toList)])

/-! ## First laws -/

/-- A blank line does not reach the session. -/
theorem enter_of_blank {line : List Char} (h : Text.isAllBlank line = true) (now : List Char)
    (console : Console) : console.enter now line = (console.remember line, []) := by
  rw [enter, if_pos h]

/-- Any other line leaves the session as the session itself leaves it. -/
theorem session_enter {line : List Char} (h : Text.isAllBlank line = false) (now : List Char)
    (console : Console) :
    (console.enter now line).1.session = (console.session.run now line).2 := by
  rw [enter, if_neg (by simp [h])]
  rfl

/-- After a line the console goes on with what is read behind it. -/
theorem runLines_ok (clock : Nat → List Char) (console : Console) (line : List Char)
    (others : List (Except Ending (List Char))) :
    console.runLines clock (.ok line :: others) =
      ((runLines clock (console.enter (clock console.number) line).1 others).1,
        console.prompt ++ (console.enter (clock console.number) line).2 ++
          (runLines clock (console.enter (clock console.number) line).1 others).2) :=
  rfl

/-- After an ending the console does not go on. -/
theorem runLines_error (clock : Nat → List Char) (console : Console) (ending : Ending)
    (others : List (Except Ending (List Char))) :
    console.runLines clock (.error ending :: others) =
      (console, console.prompt ++ showEnding console.coloured ending) :=
  rfl

end Console

/-- The exit code and what is shown where the arguments start no session. -/
def Stop.settle (env : Environment) (stop : Stop) : UInt32 × List Output :=
  if stop.isWanted then (0, [.standard (stop.text env)]) else (2, [.error (stop.text env)])

end DiceRoller
