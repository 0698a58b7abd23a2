import DiceRoller.Console.Markdown
import DiceRoller.Console.Tint
import DiceRoller.Session.Reply
import DiceRoller.Text.Quoted

/-!
# Output

What the program shows: text on standard output, text on standard error, and log lines, some of them for
debugging only.  In a log message the characters that a terminal could act on are spelled out.

Main results:

- Theorem `standardOutput_append`: what is shown on standard output comes in order.
- Theorem `logged_of_harmless`: a harmless message is logged as it is.
-/

namespace DiceRoller

/-- How much a log line matters.  Lines for debugging are shown only where that is asked for; the line
reader writes some of its own then, which are left out here. -/
inductive Severity where
  | debug
  | info
  | warning
  deriving DecidableEq, Repr

/-- The word in front of a log line. -/
def Severity.word : Severity → List Char
  | debug => "DEBUG".toList
  | info => "INFO".toList
  | warning => "WARN".toList

/-- Something that is shown. -/
inductive Output where
  | standard (text : List Char)
  | error (text : List Char)
  | log (severity : Severity) (text : List Char)
  deriving DecidableEq, Repr

namespace Output

/-- A text on standard error, as a line. -/
def errorLine (text : List Char) : Output :=
  .error (text ++ ['\n'])

/-- The text on standard output. -/
def standard? : Output → Option (List Char)
  | standard text => some text
  | _ => none

/-- The text on standard error. -/
def error? : Output → Option (List Char)
  | error text => some text
  | _ => none

/-- A log line without its time, unless it is for debugging. -/
def log? : Output → Option (List Char)
  | log .debug _ => none
  | log severity text => some (severity.word ++ ' ' :: text)
  | _ => none

/-- Whether something is shown at all: a line for debugging only where that is asked for. -/
def isShown (debugging : Bool) : Output → Bool
  | log .debug _ => debugging
  | _ => true

/-! ## Logging -/

/-- Whether a terminal could act on a character: the bell, the backspace, the form feed, the escape
character, the delete character, and the controls above ASCII. -/
def isHarmful (c : Char) : Bool :=
  c == '\x07' || c == '\x08' || c == '\x0c' || c == '\x1b' || (0x7f ≤ c.toNat && c.toNat ≤ 0x9f)

/-- A harmful character spelled out: an ASCII one with two digits of base 16, any other one between
braces. -/
def spellOut (c : Char) : List Char :=
  let digits := Nat.toDigits 16 c.toNat
  if c.toNat < 0x80 then "\\x".toList ++ List.replicate (2 - digits.length) '0' ++ digits
  else "\\u\x7b".toList ++ digits ++ "\x7d".toList

/-- A log message as it is written. -/
def logText (message : List Char) : List Char :=
  message.flatMap fun c => if isHarmful c then spellOut c else [c]

/-- What is shown for a message: a log line, and as mere text what follows its first line feed. -/
def logged (severity : Severity) (message : List Char) : List Output :=
  let text := logText message
  .log severity (text.takeWhile (· != '\n')) ::
    match (text.dropWhile (· != '\n')).tail? with
    | some rest => [.errorLine rest]
    | none => []

/-- A harmless message is logged as it is. -/
theorem logged_of_harmless {message : List Char} (hfeed : '\n' ∉ message)
    (h : ∀ c ∈ message, isHarmful c = false) (severity : Severity) :
    logged severity message = [.log severity message] := by
  have htext : logText message = message := by
    rw [logText, List.flatMap_def,
      List.map_congr_left fun c hc => by rw [h c hc, if_neg Bool.false_ne_true], ← List.flatMap_def]
    simp
  have hplain : ∀ c ∈ message, (c != '\n') = true := by
    intro c hc
    rw [bne_iff_ne]
    rintro rfl
    exact hfeed hc
  have hfirst : message.takeWhile (· != '\n') = message := by
    simpa using @List.takeWhile_append_of_pos _ _ _ [] hplain
  have hrest : message.dropWhile (· != '\n') = [] := by
    simpa using @List.dropWhile_append_of_pos _ _ _ [] hplain
  rw [logged, htext]
  simp only [hfirst, hrest, List.tail?_nil]

/-! ## The three streams -/

/-- All text on standard output. -/
def standardOutput (outputs : List Output) : List Char :=
  (outputs.filterMap standard?).flatten

/-- All text on standard error. -/
def standardError (outputs : List Output) : List Char :=
  (outputs.filterMap error?).flatten

/-- All log lines but those for debugging. -/
def logLines (outputs : List Output) : List (List Char) :=
  outputs.filterMap log?

/-- What is shown on standard output comes in order. -/
@[simp]
theorem standardOutput_append (xs ys : List Output) :
    standardOutput (xs ++ ys) = standardOutput xs ++ standardOutput ys := by
  simp [standardOutput]

@[simp]
theorem standardError_append (xs ys : List Output) :
    standardError (xs ++ ys) = standardError xs ++ standardError ys := by
  simp [standardError]

@[simp]
theorem logLines_append (xs ys : List Output) :
    logLines (xs ++ ys) = logLines xs ++ logLines ys := by
  simp [logLines]

end Output

/-- A reply as the terminal shows it. -/
def Reply.shown (coloured : Bool) (reply : Reply) : List Char :=
  if reply.isPlain then Tint.magenta.paint coloured reply.text ++ ['\n']
  else Markdown.renderText reply.text

/-- The kind of a command with its argument, as a log line names it. -/
def Command.describe (name argument : List Char) : List Char :=
  name ++ '(' :: argument ++ [')']

/-- A command as a log line names it. -/
def Command.description : Command → List Char
  | roll formula => describe "Roll".toList (Text.quoted formula)
  | advantage modifier => describe "Advantage".toList (Decimal.signed modifier.toInt)
  | disadvantage modifier => describe "Disadvantage".toList (Decimal.signed modifier.toInt)
  | scan text => describe "Scan".toList (Text.quoted text)
  | annotate text => describe "Annotate".toList (Text.quoted text)
  | pick number => describe "Pick".toList (Decimal.digits number.toNat)
  | history => "History".toList
  | clear => "Clear".toList
  | help => "Help".toList

/-- What is logged about a command before it is carried out. -/
def Command.logged (command : Command) : List Output :=
  Output.logged .debug ("running command=".toList ++ command.description)

/-- What is logged about a roll that was made. -/
def Roll.logged (roll : Roll) : List Output :=
  Output.logged .debug ("solved query=".toList ++ Text.quoted roll.label ++ " total=".toList ++
    Decimal.signed roll.total.toInt)

/-- What is logged about a diagnostic: a formula that was rejected. -/
def Diagnostic.logged : Diagnostic → List Output
  | .rejected formula _ =>
    Output.logged .warning ("rejected notation query=".toList ++ Text.quoted formula)
  | _ => []

/-- What is logged for debugging while a line is answered: the command, and the roll that it led to. -/
def Output.tracing (line : List Char) (outcome : Except Diagnostic Reply) : List Output :=
  match Command.parse line with
  | .error _ => []
  | .ok command => command.logged ++ ((outcome.toOption.bind Reply.roll?).map Roll.logged).getD []

/-- What is shown for the answer to a line. -/
def Output.ofAnswer (coloured : Bool) : Except Diagnostic Reply → List Output
  | .ok reply => [.standard (reply.shown coloured)]
  | .error diagnostic =>
    diagnostic.logged ++ [.errorLine (Tint.boldRed.paint coloured diagnostic.message.toList)]

end DiceRoller
