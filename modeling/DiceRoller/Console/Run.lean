import DiceRoller.Console.Basic

/-!
# A whole run

A run of the program from its arguments to its exit code: the environment file is read, then the
arguments, then what the line reader delivers, and at the end the line history is stored.

Main results:

- Theorem `runOn_of_stop`: arguments that start no session leave the folder alone.
- Theorem `run_eq_runOn`: a run on bytes is one on the lines that the line reader makes of them.
-/

namespace DiceRoller

/-- All that a run depends on besides what is read line by line: the arguments, the environment, the
folder and the folders around it from the inside out, the bytes of the input where no terminal delivers
the lines, the time of day at which each line is read, and the dice to roll without a seed. -/
structure Host where
  arguments : List (List Char)
  environment : Environment
  folder : Folder
  input : List UInt8
  clock : Nat → List Char
  dice : Generator
  parents : List Folder := []

/-- What a run leaves behind. -/
structure RunResult where
  exitCode : UInt32
  outputs : List Output
  folder : Folder

/-- The name of the file that gives values to variables. -/
def EnvironmentFile.fileName : List Char :=
  ".env".toList

namespace Host

/-! ## The environment -/

/-- The environment with the variables of the environment file, and what went wrong with that file.  It
is the one in the folder, or else in the nearest folder around it that has one. -/
def loadedEnvironment (host : Host) : Environment × Option EnvironmentFault :=
  host.environment.loadFirst
    ((host.folder :: host.parents).map (Folder.get? · EnvironmentFile.fileName))

/-- The environment with the variables of the environment file. -/
def fullEnvironment (host : Host) : Environment :=
  host.loadedEnvironment.1

/-! ## Running -/

/-- The end of a run that starts no session. -/
def stopped (host : Host) (stop : Stop) : RunResult :=
  let settled := stop.settle host.fullEnvironment
  ⟨settled.1, settled.2, host.folder⟩

/-- The console as a run opens it. -/
def opened (host : Host) (isTerminal : Bool) (arguments : Arguments) : Console × List Output :=
  Console.start host.loadedEnvironment isTerminal arguments host.dice
    (host.folder.get? arguments.historyFile)

/-- Stores the line history at the end of a run. -/
def store (host : Host) (path : List Char) (console : Console) (outputs : List Output) :
    RunResult :=
  match console.saved (host.folder.get? path) with
  | none => ⟨0, outputs, host.folder⟩
  | some saved =>
    let settled := Console.settle saved (host.folder.check path)
    ⟨settled.1, outputs ++ settled.2, host.folder.put path saved.content⟩

/-- A run with arguments that were understood, on what a line reader delivers. -/
def runWith (host : Host) (arguments : Arguments) (reader : LineReader) : RunResult :=
  let started := host.opened reader.isTerminal arguments
  let finished := started.1.runLines host.clock reader.readings
  host.store arguments.historyFile finished.1
    ((started.2 ++ finished.2 ++ [Console.closingLog finished.1.session]).filter
      (Output.isShown arguments.debug))

/-- A run on what a line reader delivers. -/
def runOn (host : Host) (reader : LineReader) : RunResult :=
  match Arguments.read host.fullEnvironment host.arguments with
  | .ok arguments => host.runWith arguments reader
  | .error stop => host.stopped stop

/-! ## Running on bytes -/

/-- What is shown up to a line on which the line reader breaks down, given what it delivered. -/
def shownBefore (clock : Nat → List Char) (console : Console) :
    List (Except Ending (List Char)) → List Output
  | [] => console.prompt
  | reading :: others =>
    let taken := console.take (clock console.number) reading
    console.prompt ++ taken.2 ++ shownBefore clock taken.1 others

/-- A run whose line reader breaks down: the program goes down with it.  What the reader itself says then
is left out. -/
def breakDown (host : Host) (readings : List (Except Ending (List Char))) : RunResult :=
  match Arguments.read host.fullEnvironment host.arguments with
  | .ok arguments =>
    let started := host.opened false arguments
    ⟨101, (started.2 ++ shownBefore host.clock started.1 readings).filter
      (Output.isShown arguments.debug), host.folder⟩
  | .error stop => host.stopped stop

/-- A run on the bytes of the input, which come from no terminal. -/
def run (host : Host) : RunResult :=
  let delivered := Input.deliver (Input.splitAtFeeds host.input)
  if delivered.2 then host.breakDown delivered.1 else host.runOn ⟨false, delivered.1⟩

/-! ## First laws -/

/-- Arguments that were understood start a session. -/
theorem runOn_of_ok {host : Host} {arguments : Arguments}
    (h : Arguments.read host.fullEnvironment host.arguments = .ok arguments) (reader : LineReader) :
    host.runOn reader = host.runWith arguments reader := by
  rw [runOn, h]

/-- Arguments that start no session leave the folder alone. -/
theorem runOn_of_stop {host : Host} {stop : Stop}
    (h : Arguments.read host.fullEnvironment host.arguments = .error stop) (reader : LineReader) :
    (host.runOn reader).folder = host.folder := by
  rw [runOn, h]
  rfl

/-- A run on bytes is one on the lines that the line reader makes of them, unless it breaks down. -/
theorem run_eq_runOn {host : Host} {readings : List (Except Ending (List Char))}
    (h : Input.deliver (Input.splitAtFeeds host.input) = (readings, false)) :
    host.run = host.runOn ⟨false, readings⟩ := by
  rw [run, h]
  rfl

end Host
end DiceRoller
