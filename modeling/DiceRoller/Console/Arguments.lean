import DiceRoller.Console.Switch
import DiceRoller.Text.Decimal

/-!
# Arguments

The arguments of the program are read from left to right.  A switch is spelled `--long`, `--long=value`
or `-x`; letters may share a dash, and the rest behind a letter that takes a value is that value, with
or without an equals sign.  A value may also follow as an argument of its own; it is looked at only
when the next switch is reached, so what is unknown is reported before what is wrong with it.  What the
arguments do not say is taken from the environment.

Main results:

- Theorem `given_prefix_settle`: a switch that was waiting is added to what was given before it.
- Theorem `read_nil`: without arguments the presets hold.
-/

namespace DiceRoller

/-- A switch with what was said for it. -/
inductive Given where
  | debug
  | capacity (entries : UInt64)
  | seed (seed : UInt64)
  | historyFile (path : List Char)
  deriving DecidableEq, Repr

/-- The switch that was given. -/
def Given.switch : Given → Switch
  | debug => .debug
  | capacity _ => .capacity
  | seed _ => .seed
  | historyFile _ => .historyFile

/-- What the program is started with. -/
structure Arguments where
  debug : Bool
  capacity : UInt64
  seed : Option UInt64
  historyFile : List Char
  deriving DecidableEq, Repr

/-- Why the arguments do not start a session. -/
inductive Stop where
  | help
  | version
  | unknown (argument : List Char) (nearest : Option Switch) (used : List Switch)
  | repeated (switch : Switch)
  | missingValue (switch : Switch)
  | unwantedValue (switch : Switch) (value : List Char) (isFirst : Bool)
  | badValue (switch : Switch) (value : List Char) (fault : Decimal.Fault)
  deriving DecidableEq, Repr

namespace Stop

/-- Whether the program stops because it was asked to. -/
def isWanted : Stop → Bool
  | help | version => true
  | _ => false

/-- The closing line of an error. -/
def seeHelp : List Char :=
  "\n\nFor more information, try ".toList ++ Emphasis.verbatim.quote "--help".toList ++ ".\n".toList

/-- The suggestion of a switch. -/
def suggest : Option Switch → List Char
  | some switch =>
    "\n\n  ".toList ++ Emphasis.right.mark "tip:".toList ++ " a similar argument exists: ".toList ++
      Emphasis.right.quote switch.dashed
  | none => []

/-- The synopsis in an error. -/
def showUsage (synopsis : List Char) : List Char :=
  "\n\n".toList ++ usageHeading ++ synopsis

/-- What an error says about its cause. -/
def cause : Stop → List Char
  | help | version => []
  | unknown argument nearest used =>
    "unexpected argument ".toList ++ Emphasis.wrong.quote argument ++ " found".toList ++
      suggest nearest ++ showUsage (synopsis used)
  | repeated switch =>
    "the argument ".toList ++ Emphasis.wrong.quote switch.usage ++
      " cannot be used multiple times".toList ++ showUsage (synopsis [])
  | missingValue switch =>
    "a value is required for ".toList ++ Emphasis.wrong.quote switch.usage ++
      " but none was supplied".toList
  | unwantedValue switch value isFirst =>
    "unexpected value ".toList ++ Emphasis.wrong.quote value ++ " for ".toList ++
      Emphasis.verbatim.quote switch.usage ++ " found; no more were expected".toList ++
      showUsage (if isFirst then synopsis [switch] else settingSynopsis switch)
  | badValue switch value fault =>
    "invalid value ".toList ++ Emphasis.wrong.quote value ++ " for ".toList ++
      Emphasis.verbatim.quote switch.usage ++ ": ".toList ++ fault.message.toList

/-- What is said when the program stops, each part in its style: what was asked for, or an error. -/
def message (env : Environment) : Stop → List Char
  | help => helpPage env
  | version => versionLine
  | stop => Emphasis.fault.mark "error:".toList ++ ' ' :: stop.cause ++ seeHelp

/-- What is shown when the program stops. -/
def text (env : Environment) (stop : Stop) : List Char :=
  Emphasis.shown env.stylesMessages (stop.message env)

end Stop

namespace Arguments

/-! ## Giving a switch -/

/-- Reads the value of a switch. -/
def readValue (switch : Switch) (value : List Char) : Except Stop Given :=
  match switch with
  | .capacity => ((Decimal.readUnsigned value).map .capacity).mapError (.badValue switch value)
  | .seed => ((Decimal.readUnsigned value).map .seed).mapError (.badValue switch value)
  | .historyFile => .ok (.historyFile value)
  | .debug => .ok .debug
  | .help => .error .help
  | .version => .error .version

/-- Whether a switch was given. -/
def isGiven (given : List Given) (switch : Switch) : Bool :=
  given.any fun g => g.switch == switch

/-- Adds a switch to those that were given; each may be given once. -/
def give (given : List Given) (switch : Switch) (value : Option (List Char)) :
    Except Stop (List Given) :=
  if switch.takesValue && value.isNone then .error (.missingValue switch)
  else if isGiven given switch then .error (.repeated switch)
  else (readValue switch (value.getD [])).map fun g => given ++ [g]

/-! ## Reading from left to right -/

/-- What was read so far: the switches that were given, and one that waits for its value or whose
value has not been looked at. -/
structure Progress where
  given : List Given
  waiting : Option (Switch × Option (List Char))
  deriving DecidableEq, Repr

/-- Adds the switch that waits. -/
def Progress.settle (progress : Progress) : Except Stop (List Given) :=
  match progress.waiting with
  | some (switch, value) => give progress.given switch value
  | none => .ok progress.given

/-- Adds the switch that waits and then another one. -/
def Progress.settleWith (progress : Progress) (switch : Switch) (value : Option (List Char)) :
    Except Stop Progress := do
  let given ← progress.settle
  let given ← give given switch value
  .ok ⟨given, none⟩

/-- Adds the switch that waits and lets another one wait. -/
def Progress.awaitValue (progress : Progress) (switch : Switch) : Except Stop Progress := do
  let given ← progress.settle
  .ok ⟨given, some (switch, none)⟩

/-- The switches that were used, the one that waits among them once it has a value; a switch that was
used twice is left out. -/
def Progress.used (progress : Progress) : List Switch :=
  let before := progress.given.map Given.switch
  match progress.waiting with
  | some (switch, some _) =>
    if before.contains switch then before.filter fun other => other != switch
    else before ++ [switch]
  | _ => before

/-- Reads the letters behind one dash. -/
def readLetters (progress : Progress) : List Char → Except Stop Progress
  | [] => .ok progress
  | c :: cs =>
    match Switch.ofLetter? c with
    | none => .error (.unknown ['-', c] none [])
    | some switch =>
      if switch.takesValue then
        match cs with
        | [] => progress.awaitValue switch
        | '=' :: value => progress.settleWith switch (some value)
        | value => progress.settleWith switch (some value)
      else
        match progress.settleWith switch none with
        | .ok progress => readLetters progress cs
        | .error stop => .error stop

/-- Cuts a text at its first equals sign. -/
def splitAtEquals (cs : List Char) : List Char × Option (List Char) :=
  (cs.takeWhile (· != '='), (cs.dropWhile (· != '=')).tail?)

/-- The error for a long name that no switch has. -/
def unknownName (progress : Progress) (name : List Char) : Stop :=
  let nearest := Switch.nearest? name
  let used := progress.used
  .unknown ("--".toList ++ name) nearest
    (match nearest with
    | some switch => if used.contains switch then used else used ++ [switch]
    | none => used)

/-- Reads what stands behind two dashes. -/
def readLong (progress : Progress) (cs : List Char) : Except Stop Progress :=
  let (name, value) := splitAtEquals cs
  match Switch.find? name with
  | none => .error (unknownName progress name)
  | some switch =>
    match switch.takesValue, value with
    | true, some value => progress.settleWith switch (some value)
    | true, none => progress.awaitValue switch
    | false, some value => .error (.unwantedValue switch value progress.given.isEmpty)
    | false, none => progress.settleWith switch none

/-- Reads an argument that is no switch: the value that is waited for. -/
def readPlain (progress : Progress) (argument : List Char) : Except Stop Progress :=
  match progress.waiting with
  | some (switch, none) => .ok ⟨progress.given, some (switch, some argument)⟩
  | _ => .error (.unknown argument none [])

/-- Reads one argument. -/
def readArgument (progress : Progress) (argument : List Char) : Except Stop Progress :=
  match argument with
  | ['-'] => readPlain progress argument
  | '-' :: '-' :: name => readLong progress name
  | '-' :: letters => readLetters progress letters
  | _ => readPlain progress argument

/-- Reads arguments from left to right; nothing may follow two dashes that stand alone. -/
def readAll (progress : Progress) : List (List Char) → Except Stop (List Given)
  | [] => progress.settle
  | ['-', '-'] :: [] => progress.settle
  | ['-', '-'] :: other :: _ => .error (.unknown other none [])
  | argument :: others =>
    match readArgument progress argument with
    | .ok progress => readAll progress others
    | .error stop => .error stop

/-! ## The environment and the presets -/

/-- Adds a switch that was not given but that the environment has a value for. -/
def giveFrom (env : Environment) (given : List Given) (switch : Switch) :
    Except Stop (List Given) :=
  match switch.environmentName?.bind env.get? with
  | some value => if isGiven given switch then .ok given else give given switch (some value)
  | none => .ok given

/-- The arguments that some switches make up, with the presets for all others. -/
def ofGiven (given : List Given) : Arguments where
  debug := isGiven given .debug
  capacity :=
    (given.findSome? fun | .capacity entries => some entries | _ => none).getD
      (UInt64.ofNat Log.defaultCapacity)
  seed := given.findSome? fun | .seed seed => some seed | _ => none
  historyFile :=
    (given.findSome? fun | .historyFile path => some path | _ => none).getD
      Switch.defaultHistoryFile

/-- Reads the arguments of the program. -/
def read (env : Environment) (arguments : List (List Char)) : Except Stop Arguments := do
  let given ← readAll ⟨[], none⟩ arguments
  let given ← Switch.all.foldlM (giveFrom env) given
  .ok (ofGiven given)

/-! ## First laws -/

/-- A switch that was waiting is added to what was given before it. -/
theorem given_prefix_settle {progress : Progress} {given : List Given}
    (h : progress.settle = .ok given) : progress.given <+: given := by
  unfold Progress.settle give at h
  split at h
  · split at h
    · cases h
    · split at h
      · cases h
      · cases hvalue : readValue _ _ with
        | error stop => rw [hvalue] at h; cases h
        | ok g =>
          rw [hvalue] at h
          cases h
          exact List.prefix_append _ _
  · cases h
    exact List.prefix_rfl

/-- Without arguments the presets hold. -/
theorem read_nil : read ⟨[]⟩ [] = .ok ⟨false, 50, none, ".dicemark_history".toList⟩ :=
  rfl

end Arguments
end DiceRoller
