import Mathlib.Data.List.Induction
import DiceRoller.Proofs.Roll.Recording
import DiceRoller.Proofs.Session.Request

/-!
# Conversations

A session answers one line after the other.  What it remembers can be told from what was said: the log
holds the latest rolls since it was last cleared, and the tokens are those of the text that was scanned
last.  Each line changes this in one way only, so the laws of a whole conversation follow by going
through its lines.

Main results:

- Theorem `log_run`: what a line does to the log.
- Theorem `tokens_run`: what a line does to the tokens.
- Theorem `renderNumbered_eq_flatMap`: a numbered list counts its lines.
- Theorem `remembered_after`: what a session remembers behind any lines.
-/

namespace DiceRoller

/-- A line, the time of day at which it was typed, and what came of it. -/
structure Exchange where
  time : List Char
  line : List Char
  outcome : Except Diagnostic Reply

namespace Exchange

/-- The command of the line, if it is one. -/
def command? (exchange : Exchange) : Option Command :=
  (Command.parse exchange.line).toOption

/-- Whether the line asks for the log to be cleared. -/
def isClear (exchange : Exchange) : Bool :=
  exchange.command? = some .clear

/-- The text that the line asks to be scanned. -/
def scanned? (exchange : Exchange) : Option (List Char) :=
  exchange.command?.bind Command.scanned?

/-- The entry for the roll of a line that asks for one, if it was answered by a reply. -/
def logged? (exchange : Exchange) : Option LogEntry :=
  if exchange.command?.any Command.asksForRoll then
    (exchange.outcome.toOption.bind Reply.roll?).map fun roll => ⟨exchange.time, roll⟩
  else none

/-- A log behind an exchange. -/
def logAfter (exchange : Exchange) (log : Log LogEntry) : Log LogEntry :=
  if exchange.isClear then log.clear
  else
    match exchange.logged? with
    | some entry => log.record entry
    | none => log

/-- An exchange is an event in the history of a log. -/
theorem logAfter_eq_update (exchange : Exchange) (log : Log LogEntry) :
    exchange.logAfter log = log.update exchange.isClear exchange.logged? := by
  unfold logAfter Log.update
  cases exchange.isClear with
  | true => rfl
  | false =>
    cases exchange.logged? with
    | none => rfl
    | some entry => rfl

/-- The command of a line that is read as one. -/
theorem command?_of_ok {time line : List Char} {outcome : Except Diagnostic Reply}
    {command : Command} (h : Command.parse line = .ok command) :
    (⟨time, line, outcome⟩ : Exchange).command? = some command := by
  rw [command?, h]
  rfl

/-- A line that is refused has none. -/
theorem command?_of_fault {time line : List Char} {outcome : Except Diagnostic Reply}
    {fault : CommandFault} (h : Command.parse line = .error fault) :
    (⟨time, line, outcome⟩ : Exchange).command? = none := by
  rw [command?, h]
  rfl

variable {exchange : Exchange} {command : Command}

/-- A line that asks for a roll does not clear the log. -/
theorem isClear_of_asksForRoll (h : exchange.command? = some command)
    (hroll : command.asksForRoll = true) : exchange.isClear = false := by
  rw [isClear, h, decide_eq_false_iff_not, Option.some.injEq]
  rintro rfl
  cases hroll

/-- The roll that a reply shows is logged if the line asked for one. -/
theorem logged?_of_shows {reply : Reply} {roll : Roll} (h : exchange.command? = some command)
    (hroll : command.asksForRoll = true) (houtcome : exchange.outcome = .ok reply)
    (hshows : reply.roll? = some roll) : exchange.logged? = some ⟨exchange.time, roll⟩ := by
  have hshown : exchange.outcome.toOption.bind Reply.roll? = some roll := by
    rw [houtcome]
    exact hshows
  rw [logged?, h, Option.any_some, hroll, if_pos rfl, hshown, Option.map_some]

/-- A diagnostic logs nothing. -/
theorem logged?_of_error {diagnostic : Diagnostic} (h : exchange.outcome = .error diagnostic) :
    exchange.logged? = none := by
  rw [logged?, h]
  exact ite_self none

/-- Nor does a command that asks for no roll. -/
theorem logged?_of_not_asksForRoll (h : exchange.command? = some command)
    (hroll : command.asksForRoll = false) : exchange.logged? = none := by
  rw [logged?, h, Option.any_some, hroll, if_neg Bool.false_ne_true]

/-- Nor does a line that is no command. -/
theorem logged?_of_no_command (h : exchange.command? = none) : exchange.logged? = none := by
  rw [logged?, h]
  rfl

end Exchange

namespace Session

/-! ## One line -/

/-- What is said when a line is typed at a time of day. -/
def exchange (time line : List Char) (s : Session) : Exchange :=
  ⟨time, line, (s.run time line).1⟩

namespace Answered

variable {time line : List Char} {s : Session} {result : Except Diagnostic Reply × Session}

/-- The log behind a line is told by what was said. -/
theorem log_eq (h : Answered time line s result) :
    result.2.log = (⟨time, line, result.1⟩ : Exchange).logAfter s.log := by
  rw [Exchange.logAfter]
  cases h with
  | misread parsed =>
    rw [Exchange.logged?_of_no_command (Exchange.command?_of_fault parsed), Exchange.isClear,
      Exchange.command?_of_fault parsed]
    rfl
  | rolled parsed asks shows =>
    rw [Exchange.isClear_of_asksForRoll (Exchange.command?_of_ok parsed) asks,
      Exchange.logged?_of_shows (Exchange.command?_of_ok parsed) asks rfl shows]
    rfl
  | failed parsed asks =>
    rw [Exchange.isClear_of_asksForRoll (Exchange.command?_of_ok parsed) asks,
      Exchange.logged?_of_error rfl]
    rfl
  | replied parsed asks shows =>
    rw [Exchange.logged?_of_not_asksForRoll (Exchange.command?_of_ok parsed) asks, Exchange.isClear,
      Exchange.command?_of_ok parsed]
    simp [behind]

/-- So are the tokens. -/
theorem tokens_eq (h : Answered time line s result) :
    result.2.tokens =
      ((⟨time, line, result.1⟩ : Exchange).scanned?.map scan).getD s.tokens := by
  rw [Exchange.scanned?]
  cases h with
  | misread parsed =>
    rw [Exchange.command?_of_fault parsed]
    rfl
  | rolled parsed asks shows =>
    rw [Exchange.command?_of_ok parsed, Option.bind_some, Command.scanned?_of_asksForRoll asks]
    rfl
  | failed parsed asks =>
    rw [Exchange.command?_of_ok parsed, Option.bind_some, Command.scanned?_of_asksForRoll asks]
    rfl
  | replied parsed asks shows =>
    rw [Exchange.command?_of_ok parsed]
    rfl

/-- A roll is put into the log for a line that asks for one and is answered by a reply. -/
theorem isSome_logged?_iff (h : Answered time line s result) :
    (⟨time, line, result.1⟩ : Exchange).logged?.isSome = true ↔
      (∃ command, Command.parse line = .ok command ∧ command.asksForRoll = true) ∧
        ∃ reply, result.1 = .ok reply := by
  cases h with
  | @misread fault parsed =>
    rw [Exchange.logged?_of_no_command (Exchange.command?_of_fault parsed)]
    refine iff_of_false Bool.false_ne_true ?_
    rintro ⟨⟨command, hparse, -⟩, -⟩
    rw [parsed] at hparse
    cases hparse
  | @rolled command reply roll generator parsed asks shows =>
    rw [Exchange.logged?_of_shows (Exchange.command?_of_ok parsed) asks rfl shows]
    exact ⟨fun _ => ⟨⟨command, parsed, asks⟩, reply, rfl⟩, fun _ => rfl⟩
  | failed parsed asks =>
    rw [Exchange.logged?_of_error rfl]
    refine iff_of_false Bool.false_ne_true ?_
    rintro ⟨-, reply, houtcome⟩
    cases houtcome
  | replied parsed asks shows =>
    rw [Exchange.logged?_of_not_asksForRoll (Exchange.command?_of_ok parsed) asks]
    refine iff_of_false Bool.false_ne_true ?_
    rintro ⟨⟨command, hparse, hasks⟩, -⟩
    cases parsed.symm.trans hparse
    rw [asks] at hasks
    cases hasks

end Answered

/-- What a line does to the log. -/
theorem log_run (time line : List Char) (s : Session) :
    (s.run time line).2.log = (s.exchange time line).logAfter s.log :=
  (answered_run time line s).log_eq

/-- What a line does to the tokens. -/
theorem tokens_run (time line : List Char) (s : Session) :
    (s.run time line).2.tokens = ((s.exchange time line).scanned?.map scan).getD s.tokens :=
  (answered_run time line s).tokens_eq

/-! ## Many lines -/

/-- The session behind some lines, each typed at a time of day. -/
def after (lines : List (List Char × List Char)) (s : Session) : Session :=
  lines.foldl (fun s typed => (s.run typed.1 typed.2).2) s

/-- What is said about some lines, in order. -/
def exchanges : List (List Char × List Char) → Session → List Exchange
  | [], _ => []
  | (time, line) :: lines, s => s.exchange time line :: exchanges lines (s.run time line).2

/-- Without lines nothing happens. -/
@[simp]
theorem after_nil (s : Session) : s.after [] = s :=
  rfl

/-- The first line is answered first. -/
@[simp]
theorem after_cons (time line : List Char) (lines : List (List Char × List Char)) (s : Session) :
    s.after ((time, line) :: lines) = (s.run time line).2.after lines :=
  rfl

/-- The last line is answered behind the others. -/
theorem after_append_singleton (lines : List (List Char × List Char)) (time line : List Char)
    (s : Session) : s.after (lines ++ [(time, line)]) = ((s.after lines).run time line).2 := by
  rw [after, List.foldl_append]
  rfl

/-- What is said about the last line comes last. -/
theorem exchanges_append_singleton (lines : List (List Char × List Char)) (time line : List Char)
    (s : Session) :
    s.exchanges (lines ++ [(time, line)]) =
      s.exchanges lines ++ [(s.after lines).exchange time line] := by
  induction lines generalizing s with
  | nil => rfl
  | cons typed lines ih =>
    rw [List.cons_append, exchanges, exchanges, ih, List.cons_append, after_cons]

/-! ## What is remembered -/

/-- The entries of the rolls since the log was last cleared, newest first. -/
def rollsSaid (said : List Exchange) : List LogEntry :=
  (said.reverse.takeWhile fun exchange => !exchange.isClear).filterMap Exchange.logged?

/-- The text that was scanned last. -/
def textSaid? (said : List Exchange) : Option (List Char) :=
  said.reverse.findSome? Exchange.scanned?

/-- One more exchange adds its roll, or forgets all of them. -/
theorem rollsSaid_append_singleton (said : List Exchange) (exchange : Exchange) :
    rollsSaid (said ++ [exchange]) =
      if exchange.isClear then [] else exchange.logged?.toList ++ rollsSaid said :=
  Log.sinceCleared_append_singleton Exchange.isClear Exchange.logged? said exchange

/-- One more exchange tells its own text, or the one before. -/
theorem textSaid?_append_singleton (said : List Exchange) (exchange : Exchange) :
    textSaid? (said ++ [exchange]) = exchange.scanned?.or (textSaid? said) := by
  rw [textSaid?, List.reverse_append, List.reverse_singleton, List.singleton_append,
    List.findSome?_cons]
  cases exchange.scanned? with
  | none => rfl
  | some text => rfl

/-- The entries of a log that holds the latest of some rolls, behind one more exchange. -/
theorem entries_logAfter {log : Log LogEntry} {said : List Exchange} {exchange : Exchange}
    (h : log.entries = (rollsSaid said).take log.capacity) :
    (exchange.logAfter log).entries = (rollsSaid (said ++ [exchange])).take log.capacity := by
  rw [rollsSaid_append_singleton, exchange.logAfter_eq_update,
    Log.entries_update exchange.isClear exchange.logged? h]

/-- No exchange changes the room of a log. -/
theorem capacity_logAfter (exchange : Exchange) (log : Log LogEntry) :
    (exchange.logAfter log).capacity = log.capacity := by
  rw [exchange.logAfter_eq_update, Log.capacity_update]

variable (generator : Generator) (capacity : Nat) (lines : List (List Char × List Char))

/-- The room of a log is the one that the session began with. -/
theorem capacity_after : ((start generator capacity).after lines).log.capacity = capacity := by
  induction lines using List.reverseRecOn with
  | nil => rfl
  | append_singleton lines typed ih =>
    rw [after_append_singleton, log_run, capacity_logAfter, ih]

/-- The log holds the latest rolls since it was last cleared. -/
theorem entries_after :
    ((start generator capacity).after lines).log.entries =
      (rollsSaid ((start generator capacity).exchanges lines)).take capacity := by
  induction lines using List.reverseRecOn with
  | nil => exact List.take_nil.symm
  | append_singleton lines typed ih =>
    have hcapacity := capacity_after generator capacity lines
    have hentries : ((start generator capacity).after lines).log.entries =
        (rollsSaid ((start generator capacity).exchanges lines)).take
          ((start generator capacity).after lines).log.capacity := by
      rw [ih, hcapacity]
    rw [after_append_singleton, log_run, exchanges_append_singleton, entries_logAfter hentries,
      hcapacity]

/-- The tokens are those of the text that was scanned last. -/
theorem tokens_after :
    ((start generator capacity).after lines).tokens =
      match textSaid? ((start generator capacity).exchanges lines) with
      | some text => scan text
      | none => [] := by
  induction lines using List.reverseRecOn with
  | nil => rfl
  | append_singleton lines typed ih =>
    rw [after_append_singleton, tokens_run, exchanges_append_singleton, textSaid?_append_singleton]
    cases (((start generator capacity).after lines).exchange typed.1 typed.2).scanned? with
    | none => exact ih
    | some text => rfl

/-- In a conversation the lines that log a roll are those that ask for one and get a reply. -/
theorem isSome_logged?_of_mem {s : Session} {exchange : Exchange} (h : exchange ∈ s.exchanges lines) :
    exchange.logged?.isSome = true ↔
      (∃ command, Command.parse exchange.line = .ok command ∧ command.asksForRoll = true) ∧
        ∃ reply, exchange.outcome = .ok reply := by
  induction lines generalizing s with
  | nil => cases h
  | cons typed lines ih =>
    rcases List.mem_cons.1 h with rfl | hmem
    · exact (answered_run typed.1 typed.2 s).isSome_logged?_iff
    · exact ih hmem

end Session

/-! ## The list of past rolls -/

namespace Reply

/-- A numbered list counts its lines. -/
theorem renderNumbered_eq_flatMap (first : Nat) (lines : List (List Char)) :
    renderNumbered first lines =
      (lines.zipIdx first).flatMap fun numbered =>
        '\n' :: Decimal.digits numbered.2 ++ ". ".toList ++ numbered.1 := by
  induction lines generalizing first with
  | nil => rfl
  | cons line lines ih => rw [renderNumbered, ih, List.zipIdx_cons, List.flatMap_cons]

/-- The list of past rolls: a number, the time and the roll in each line. -/
theorem renderHistory_eq (capacity : Nat) (entries : List LogEntry) :
    renderHistory capacity entries =
      if entries = [] then "**history** *empty*".toList
      else
        "**history** ".toList ++ Decimal.digits entries.length ++ '/' :: Decimal.digits capacity ++
          (entries.zipIdx 1).flatMap fun numbered =>
            '\n' :: Decimal.digits numbered.2 ++ ". *".toList ++ numbered.1.time ++ "* ".toList ++
              numbered.1.roll.render := by
  have hline : ∀ numbered : LogEntry × Nat,
      '\n' :: Decimal.digits numbered.2 ++ ". ".toList ++ renderEntry numbered.1 =
        '\n' :: Decimal.digits numbered.2 ++ ". *".toList ++ numbered.1.time ++ "* ".toList ++
          numbered.1.roll.render := by
    intro numbered
    have hstop : ". *".toList = ". ".toList ++ ['*'] := by decide
    rw [hstop, renderEntry]
    generalize ". ".toList = stop
    generalize "* ".toList = star
    simp
  cases entries with
  | nil => rfl
  | cons entry entries =>
    rw [renderHistory, if_neg (by simp), if_neg (by simp), renderNumbered_eq_flatMap,
      List.zipIdx_map, List.flatMap_map]
    simp only [Prod.map_fst, Prod.map_snd, id_eq, hline]

end Reply

namespace Session

/-- What a session remembers behind any lines.  The log holds the latest rolls since it was last
cleared, as many as it has room for: one entry for each line that asked for a roll and got one, and
none for any other line.  The tokens are those of the text that was scanned last.  The list of past
rolls shows just these entries, numbered from one, and changes nothing. -/
theorem remembered_after (generator : Generator) (capacity : Nat)
    (lines : List (List Char × List Char)) :
    let s := (start generator capacity).after lines
    let said := (start generator capacity).exchanges lines
    s.log.entries = (rollsSaid said).take capacity ∧
    (∀ exchange ∈ said, exchange.logged?.isSome = true ↔
      (∃ command, Command.parse exchange.line = .ok command ∧ command.asksForRoll = true) ∧
        ∃ reply, exchange.outcome = .ok reply) ∧
    (s.tokens =
      match textSaid? said with
      | some text => scan text
      | none => []) ∧
    ∀ time line, Command.parse line = .ok .history →
      ∃ reply, s.run time line = (.ok reply, s) ∧
        reply.text =
          if s.log.entries = [] then "**history** *empty*".toList
          else
            "**history** ".toList ++ Decimal.digits s.log.entries.length ++
              '/' :: Decimal.digits capacity ++
              (s.log.entries.zipIdx 1).flatMap fun numbered =>
                '\n' :: Decimal.digits numbered.2 ++ ". *".toList ++ numbered.1.time ++
                  "* ".toList ++ numbered.1.roll.render := by
  intro s said
  refine ⟨entries_after generator capacity lines, fun exchange h => isSome_logged?_of_mem lines h,
    tokens_after generator capacity lines, ?_⟩
  intro time line hparse
  refine ⟨.history s.log.capacity s.log.entries, run_of_parse hparse, ?_⟩
  have hcapacity : s.log.capacity = capacity := capacity_after generator capacity lines
  rw [hcapacity]
  exact Reply.renderHistory_eq capacity s.log.entries

end Session
end DiceRoller
