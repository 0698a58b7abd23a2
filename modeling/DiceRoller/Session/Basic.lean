import DiceRoller.Scan.Scanner
import DiceRoller.Session.Reply

/-!
# Sessions

A session remembers its dice, the latest rolls, and the tokens of the text that was scanned last.
Every line is answered by a reply or a diagnostic, and the session goes on either way.

Main results:

- Theorem `run_of_bad_command`: a line that is no command changes nothing.
-/

namespace DiceRoller

/-- The state between two lines. -/
structure Session where
  generator : Generator
  log : Log LogEntry
  tokens : List PlacedToken

namespace Session

/-- A session without rolls and tokens. -/
def start (generator : Generator) (capacity : Nat) : Session :=
  ⟨generator, .empty capacity, []⟩

/-- Makes a roll, keeps it with the time, and replies. -/
def answerQuery (now : List Char) (query : Query) (reply : Roll → Reply) (s : Session) :
    Except Diagnostic Reply × Session :=
  let solved := query.solveInto .random s.generator s.log (LogEntry.mk now)
  ((solved.1.map reply).mapError .failed, ⟨solved.2.1, solved.2.2, s.tokens⟩)

/-- Whether a token is a saving throw against a difficulty that no total can reach. -/
def isOutOfReach : Kind → Option UInt64
  | .save dc _ => if Int64.maxValue.toInt < dc.toNat then some dc else none
  | _ => none

/-- Rolls the token of a number, counted from one. -/
def answerPick (now : List Char) (number : UInt64) (s : Session) :
    Except Diagnostic Reply × Session :=
  match s.tokens[number.toNat - 1]? with
  | none => (.error (.noToken number), s)
  | some placed =>
    match isOutOfReach placed.token.kind with
    | some dc => (.error (.dcOutOfRange dc), s)
    | none =>
      match placed.token.query with
      | .error e => (.error (.failed e), s)
      | .ok query => s.answerQuery now query (.picked placed.token.kind)

/-- Carries out a command. -/
def perform (now : List Char) (command : Command) (s : Session) :
    Except Diagnostic Reply × Session :=
  match command with
  | .roll formula =>
    match Query.parse formula with
    | .error e => (.error (.rejected formula e), s)
    | .ok query => s.answerQuery now query .rolled
  | .advantage modifier => s.answerQuery now (.advantage modifier) .advantage
  | .disadvantage modifier => s.answerQuery now (.disadvantage modifier) .disadvantage
  | .scan text =>
    let found := DiceRoller.scan text
    (.ok (.tokens (found.map PlacedToken.token)), { s with tokens := found })
  | .annotate text =>
    (.ok (.annotated (DiceRoller.annotate text)), { s with tokens := DiceRoller.scan text })
  | .pick number => s.answerPick now number
  | .history => (.ok (.history s.log.capacity s.log.entries), s)
  | .clear => (.ok .cleared, { s with log := s.log.clear })
  | .help => (.ok .help, s)

/-- Answers a line that is typed at the given time of day. -/
def run (now line : List Char) (s : Session) : Except Diagnostic Reply × Session :=
  match Command.parse line with
  | .error fault => (.error (.command fault), s)
  | .ok command => s.perform now command

/-- A line that is no command changes nothing. -/
theorem run_of_bad_command {now line : List Char} {s : Session} {fault : CommandFault}
    (h : Command.parse line = .error fault) : s.run now line = (.error (.command fault), s) := by
  rw [run, h]

end Session
end DiceRoller
