import DiceRoller.Console.Run
import DiceRoller.Console.TimeOfDay
import Std.Time.DateTime.Timestamp

/-!
# The program

Connects the console to the terminal, the files and the clock.  It reads and writes only: what is shown,
what is stored and when the loop ends is decided by the definitions of which `Host.runOn` is made.
-/

namespace DiceRoller
namespace Program

/-- The content of a file, if there is one that can be read. -/
def readFile? (path : List Char) : IO (Option (List Char)) := do
  try
    let content ← IO.FS.readFile (String.ofList path)
    return some content.toList
  catch _ => return none

/-- The variables with the given names. -/
def getVariables (names : List (List Char)) : IO Environment := do
  let bindings ← names.filterMapM fun name => do
    let value ← IO.getEnv (String.ofList name)
    return value.map fun value => (name, value.toList)
  return ⟨bindings⟩

/-- The content of the environment file in the folder and in each one around it, from the inside out. -/
def readEnvironmentFiles : IO (List (Option (List Char))) := do
  let depth := ((toString (← IO.currentDir)).toList.filter (· == '/')).length
  (List.range (depth + 1)).mapM fun steps =>
    readFile? ((List.replicate steps "../".toList).flatten ++ EnvironmentFile.fileName)

/-- The environment with the variables of the environment file, and what went wrong with that file. -/
def getEnvironment : IO (Environment × Option EnvironmentFault) := do
  let names :=
    "TERM".toList :: Environment.colourNames ++ Switch.all.filterMap Switch.environmentName?
  let files ← readEnvironmentFiles
  let mentioned := (files.filterMap id).flatMap EnvironmentFile.names
  return (← getVariables (names ++ mentioned)).loadFirst files

/-- The time of day. -/
def timeOfDay : IO (List Char) := do
  let now ← Std.Time.Timestamp.now
  return TimeOfDay.ofSeconds now.toSecondsSinceUnixEpoch.val.toNat

/-- Dice that nobody can foresee. -/
def freshDice : IO Generator := do
  let bytes ← IO.getRandomBytes 8
  return .ofSeed (bytes.toList.foldl (fun word byte => word * 256 + byte.toUInt64) 0)

/-- Shows what is to be shown. -/
def present (debugging : Bool) (outputs : List Output) : IO Unit :=
  (outputs.filter (Output.isShown debugging)).forM fun output => do
    match output with
    | .standard text =>
      let standard ← IO.getStdout
      standard.putStr (String.ofList text)
      standard.flush
    | .error text => IO.eprint (String.ofList text)
    | .log severity text => IO.eprintln (String.ofList (severity.word ++ ' ' :: text))

/-- Reads the bytes of a line, given those that were read of it, the last one in front. -/
partial def readRawLine (input : IO.FS.Stream) (read : List UInt8) : IO Input.RawLine := do
  let bytes ← input.read 1
  match bytes.toList with
  | [] => return ⟨read.reverse, false⟩
  | byte :: _ =>
    if byte = Input.feed then return ⟨read.reverse, true⟩ else readRawLine input (byte :: read)

/-- What comes of reading a line, unless the line reader breaks down. -/
def readLine? (input : IO.FS.Stream) : IO (Option (Except Ending (List Char))) := do
  let line ← readRawLine input []
  if line.bytes.isEmpty && !line.isEnded then return some (.error .endOfInput)
  return line.read?

/-- Takes in what is read, up to the first ending; there is no console behind a breakdown. -/
partial def serve (debugging : Bool) (input : IO.FS.Stream) (console : Console) :
    IO (Option Console) := do
  present debugging console.prompt
  match ← readLine? input with
  | none => return none
  | some reading =>
    let (console, outputs) := console.take (← timeOfDay) reading
    present debugging outputs
    if reading.isOk then serve debugging input console else return some console

/-- Why a file could not be written. -/
def storageFault : IO.Error → StorageFault
  | .noFileOrDirectory _ _ _ => .notFound
  | .inappropriateType _ 20 _ => .notDirectory
  | .invalidArgument _ 36 _ => .nameTooLong
  | _ => .isDirectory

/-- Writes a file. -/
def writeFile (path content : List Char) : IO (Except StorageFault Unit) := do
  try
    IO.FS.writeFile (String.ofList path) (String.ofList content)
    return .ok ()
  catch error => return .error (storageFault error)

/-- Stores the line history. -/
def store (debugging : Bool) (path : List Char) (console : Console) : IO UInt32 := do
  match console.saved (← readFile? path) with
  | none => return 0
  | some saved =>
    let (code, outputs) := Console.settle saved (← writeFile path saved.content)
    present debugging outputs
    return code

/-- Runs a session. -/
def converse (env : Environment × Option EnvironmentFault) (arguments : Arguments) : IO UInt32 := do
  let input ← IO.getStdin
  let stored ← readFile? arguments.historyFile
  let (console, outputs) :=
    Console.start env (← input.isTty) arguments (← freshDice) stored
  present arguments.debug outputs
  match ← serve arguments.debug input console with
  | none => return 101
  | some console =>
    present arguments.debug [Console.closingLog console.session]
    store arguments.debug arguments.historyFile console

end Program
end DiceRoller

/-- Runs the program. -/
def main (arguments : List String) : IO UInt32 := do
  let env ← DiceRoller.Program.getEnvironment
  match DiceRoller.Arguments.read env.1 (arguments.map String.toList) with
  | .ok arguments => DiceRoller.Program.converse env arguments
  | .error stop =>
    let (code, outputs) := stop.settle env.1
    DiceRoller.Program.present false outputs
    return code
