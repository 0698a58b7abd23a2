import DiceRoller.Proofs.Outcome
import DiceRoller.Session.Basic

/-!
# What a command asks for

Four commands ask for a roll.  What they ask for depends on the tokens that are remembered, and on
nothing else of the session: there is a query and a reply to its roll, or a diagnostic before any dice
are thrown.  A roll that is made is put into the log; nothing else is kept of such a command.

Main results:

- Theorem `perform_of_request`: what is done for a command that asks for a roll.
- Theorem `answer_cases`: the two ways in which that ends.
- Theorem `perform_of_not_asksForRoll`: what the other commands do.
- Theorem `answered_run`: what may come of a line.
-/

namespace DiceRoller

/-- A request for a roll: the query, and the reply to the roll, which shows it. -/
structure Request where
  query : Query
  reply : Roll → Reply
  shows : ∀ roll, (reply roll).roll? = some roll

/-- The request for a formula. -/
def rollRequest (formula : List Char) : Except Diagnostic Request :=
  ((Query.parse formula).mapError (.rejected formula)).map fun query =>
    ⟨query, .rolled, fun _ => rfl⟩

/-- The request for the token of a number, counted from one. -/
def pickRequest (tokens : List PlacedToken) (number : UInt64) : Except Diagnostic Request :=
  match tokens[number.toNat - 1]? with
  | none => .error (.noToken number)
  | some placed =>
    match Session.isOutOfReach placed.token.kind with
    | some dc => .error (.dcOutOfRange dc)
    | none =>
      (placed.token.query.mapError .failed).map fun query =>
        ⟨query, .picked placed.token.kind, fun _ => rfl⟩

/-- A formula that is no notation is rejected. -/
theorem rollRequest_of_error {formula : List Char} {e : Error}
    (h : Descriptor.parse formula = .error e) :
    rollRequest formula = .error (.rejected formula e) := by
  rw [rollRequest, Query.parse, h]
  rfl

/-- Any other formula is asked for as it is typed. -/
theorem rollRequest_of_ok {formula : List Char} {d : Descriptor}
    (h : Descriptor.parse formula = .ok d) :
    rollRequest formula = .ok ⟨⟨formula, d⟩, .rolled, fun _ => rfl⟩ := by
  rw [rollRequest, Query.parse, h]
  rfl

/-- A formula that may have a roll is read as the query of its request. -/
theorem parse_of_rollRequest {formula : List Char} {request : Request}
    (h : rollRequest formula = .ok request) : Query.parse formula = .ok request.query := by
  rcases map_eq_ok_iff.1 h with ⟨query, hquery, rfl⟩
  exact mapError_eq_ok_iff.1 hquery

section Picks

variable {tokens : List PlacedToken} {number : UInt64} {placed : PlacedToken}

/-- A number beyond the tokens is told to have none. -/
theorem pickRequest_of_absent (h : tokens[number.toNat - 1]? = none) :
    pickRequest tokens number = .error (.noToken number) := by
  rw [pickRequest, h]

/-- A token with a difficulty class out of reach is not asked for. -/
theorem pickRequest_of_outOfReach {dc : UInt64} (h : tokens[number.toNat - 1]? = some placed)
    (hfar : Session.isOutOfReach placed.token.kind = some dc) :
    pickRequest tokens number = .error (.dcOutOfRange dc) := by
  rw [pickRequest, h]
  simp only [hfar]

/-- Nor is a token whose formula is no notation. -/
theorem pickRequest_of_error {e : Error} (h : tokens[number.toNat - 1]? = some placed)
    (hnear : Session.isOutOfReach placed.token.kind = none) (hquery : placed.token.query = .error e) :
    pickRequest tokens number = .error (.failed e) := by
  rw [pickRequest, h]
  simp only [hnear, hquery]
  rfl

/-- Any other token is asked for. -/
theorem pickRequest_of_ok {query : Query} (h : tokens[number.toNat - 1]? = some placed)
    (hnear : Session.isOutOfReach placed.token.kind = none) (hquery : placed.token.query = .ok query) :
    pickRequest tokens number = .ok ⟨query, .picked placed.token.kind, fun _ => rfl⟩ := by
  rw [pickRequest, h]
  simp only [hnear, hquery]
  rfl

/-- A number that may have a roll is that of a token, whose query it asks for. -/
theorem query_of_pickRequest {request : Request} (h : pickRequest tokens number = .ok request) :
    ∃ placed, tokens[number.toNat - 1]? = some placed ∧
      placed.token.query = .ok request.query := by
  cases hplaced : tokens[number.toNat - 1]? with
  | none =>
    rw [pickRequest_of_absent hplaced] at h
    cases h
  | some placed =>
    refine ⟨placed, rfl, ?_⟩
    cases hreach : Session.isOutOfReach placed.token.kind with
    | some dc =>
      rw [pickRequest_of_outOfReach hplaced hreach] at h
      cases h
    | none =>
      cases hquery : placed.token.query with
      | error e =>
        rw [pickRequest_of_error hplaced hreach hquery] at h
        cases h
      | ok query =>
        rw [pickRequest_of_ok hplaced hreach hquery] at h
        cases h
        rfl

end Picks

namespace Command

/-- Whether a command asks for a roll. -/
def asksForRoll : Command → Bool
  | roll _ | advantage _ | disadvantage _ | pick _ => true
  | _ => false

/-- The text that a command asks to be scanned. -/
def scanned? : Command → Option (List Char)
  | scan text => some text
  | annotate text => some text
  | _ => none

/-- What a command asks to be rolled, given the tokens that are remembered. -/
def request? (tokens : List PlacedToken) : Command → Option (Except Diagnostic Request)
  | roll formula => some (rollRequest formula)
  | advantage modifier => some (.ok ⟨.advantage modifier, .advantage, fun _ => rfl⟩)
  | disadvantage modifier => some (.ok ⟨.disadvantage modifier, .disadvantage, fun _ => rfl⟩)
  | pick number => some (pickRequest tokens number)
  | _ => none

/-- Which commands ask for a roll, whatever the tokens. -/
theorem isSome_request? (tokens : List PlacedToken) (command : Command) :
    (command.request? tokens).isSome = command.asksForRoll := by
  cases command <;> rfl

/-- Such a command scans nothing. -/
theorem scanned?_of_asksForRoll {command : Command} (h : command.asksForRoll = true) :
    command.scanned? = none := by
  cases command with
  | scan text => cases h
  | annotate text => cases h
  | _ => rfl

end Command

namespace Session

variable {now : List Char} {command : Command} {s : Session}

/-- Answers a request; a diagnostic in place of a request is the answer. -/
def answer (now : List Char) (request : Except Diagnostic Request) (s : Session) :
    Except Diagnostic Reply × Session :=
  match request with
  | .error diagnostic => (.error diagnostic, s)
  | .ok request => s.answerQuery now request.query request.reply

/-- A pick is answered as its request is. -/
theorem answerPick_eq_answer (number : UInt64) :
    s.answerPick now number = s.answer now (pickRequest s.tokens number) := by
  rw [answerPick]
  cases hplaced : s.tokens[number.toNat - 1]? with
  | none =>
    rw [pickRequest_of_absent hplaced]
    rfl
  | some placed =>
    cases hreach : isOutOfReach placed.token.kind with
    | some dc =>
      rw [pickRequest_of_outOfReach hplaced hreach]
      simp only [hreach, answer]
    | none =>
      cases hquery : placed.token.query with
      | error e =>
        rw [pickRequest_of_error hplaced hreach hquery]
        simp only [hreach, hquery, answer]
      | ok query =>
        rw [pickRequest_of_ok hplaced hreach hquery]
        simp only [hreach, hquery, answer]

/-- A command that asks for a roll is answered by what it asks for. -/
theorem perform_of_request {request : Except Diagnostic Request}
    (h : command.request? s.tokens = some request) :
    s.perform now command = s.answer now request := by
  cases command with
  | roll formula =>
    cases h
    rw [perform, rollRequest]
    cases Query.parse formula with
    | error e => rfl
    | ok query => rfl
  | advantage modifier =>
    cases h
    rfl
  | disadvantage modifier =>
    cases h
    rfl
  | pick number =>
    cases h
    exact answerPick_eq_answer number
  | scan text => cases h
  | annotate text => cases h
  | history => cases h
  | clear => cases h
  | help => cases h

/-- A roll that succeeds is recorded and shown. -/
theorem answerQuery_of_ok {query : Query} {reply : Roll → Reply} {roll : Roll}
    {generator : Generator} (h : query.solve .random s.generator = (.ok roll, generator)) :
    s.answerQuery now query reply =
      (.ok (reply roll), ⟨generator, s.log.record ⟨now, roll⟩, s.tokens⟩) := by
  rw [answerQuery, Query.solveInto, h]
  rfl

/-- A roll that fails uses up its throws only. -/
theorem answerQuery_of_error {query : Query} {reply : Roll → Reply} {e : Error}
    {generator : Generator} (h : query.solve .random s.generator = (.error e, generator)) :
    s.answerQuery now query reply = (.error (.failed e), ⟨generator, s.log, s.tokens⟩) := by
  rw [answerQuery, Query.solveInto, h]
  rfl

/-- A request ends with a roll, which is shown and put into the log, or with a diagnostic; the tokens
stay. -/
theorem answer_cases (now : List Char) (request : Except Diagnostic Request) (s : Session) :
    (∃ asked roll generator, request = .ok asked ∧
      asked.query.solve .random s.generator = (.ok roll, generator) ∧
      s.answer now request =
        (.ok (asked.reply roll), ⟨generator, s.log.record ⟨now, roll⟩, s.tokens⟩)) ∨
      ∃ diagnostic generator,
        s.answer now request = (.error diagnostic, ⟨generator, s.log, s.tokens⟩) := by
  cases request with
  | error diagnostic => exact Or.inr ⟨diagnostic, s.generator, rfl⟩
  | ok asked =>
    rcases hsolve : asked.query.solve .random s.generator with ⟨outcome, generator⟩
    cases outcome with
    | error e => exact Or.inr ⟨.failed e, generator, answerQuery_of_error hsolve⟩
    | ok roll => exact Or.inl ⟨asked, roll, generator, rfl, hsolve, answerQuery_of_ok hsolve⟩

/-- The session behind a command that asks for no roll: one of them clears the log, and two of them
scan a text. -/
def behind (command : Command) (s : Session) : Session :=
  ⟨s.generator, if command = .clear then s.log.clear else s.log,
    (command.scanned?.map DiceRoller.scan).getD s.tokens⟩

/-- The other commands are always answered by a reply, which shows no roll. -/
theorem perform_of_not_asksForRoll (h : command.asksForRoll = false) :
    ∃ reply, reply.roll? = none ∧ s.perform now command = (.ok reply, s.behind command) := by
  cases command with
  | roll formula => cases h
  | advantage modifier => cases h
  | disadvantage modifier => cases h
  | pick number => cases h
  | scan text => exact ⟨_, rfl, rfl⟩
  | annotate text => exact ⟨_, rfl, rfl⟩
  | history => exact ⟨_, rfl, rfl⟩
  | clear => exact ⟨_, rfl, rfl⟩
  | help => exact ⟨_, rfl, rfl⟩

/-! ## Lines -/

/-- A line that is a command does what the command does. -/
theorem run_of_parse {line : List Char} (h : Command.parse line = .ok command) :
    s.run now line = s.perform now command := by
  rw [run, h]

/-- What may come of a line: it is no command, or it asks for a roll that is made or is not, or it asks
for something else. -/
inductive Answered (now line : List Char) (s : Session) : Except Diagnostic Reply × Session → Prop
  | misread {fault : CommandFault} (parsed : Command.parse line = .error fault) :
      Answered now line s (.error (.command fault), s)
  | rolled {command : Command} {reply : Reply} {roll : Roll} {generator : Generator}
      (parsed : Command.parse line = .ok command) (asks : command.asksForRoll = true)
      (shows : reply.roll? = some roll) :
      Answered now line s (.ok reply, ⟨generator, s.log.record ⟨now, roll⟩, s.tokens⟩)
  | failed {command : Command} {diagnostic : Diagnostic} {generator : Generator}
      (parsed : Command.parse line = .ok command) (asks : command.asksForRoll = true) :
      Answered now line s (.error diagnostic, ⟨generator, s.log, s.tokens⟩)
  | replied {command : Command} {reply : Reply} (parsed : Command.parse line = .ok command)
      (asks : command.asksForRoll = false) (shows : reply.roll? = none) :
      Answered now line s (.ok reply, s.behind command)

/-- Every line is answered in one of these ways. -/
theorem answered_run (now line : List Char) (s : Session) :
    Answered now line s (s.run now line) := by
  cases hparse : Command.parse line with
  | error fault =>
    rw [run_of_bad_command hparse]
    exact .misread hparse
  | ok command =>
    rw [run_of_parse hparse]
    by_cases hroll : command.asksForRoll = true
    · have hsome : (command.request? s.tokens).isSome = true := by
        rw [command.isSome_request?, hroll]
      rcases Option.isSome_iff_exists.1 hsome with ⟨request, hrequest⟩
      rw [perform_of_request hrequest]
      rcases answer_cases now request s with
        ⟨asked, roll, generator, -, -, hanswer⟩ | ⟨diagnostic, generator, hanswer⟩
      · rw [hanswer]
        exact .rolled hparse hroll (asked.shows roll)
      · rw [hanswer]
        exact .failed hparse hroll
    · rw [Bool.not_eq_true] at hroll
      rcases perform_of_not_asksForRoll (s := s) hroll with ⟨reply, hshows, hperform⟩
      rw [hperform]
      exact .replied hparse hroll hshows

end Session
end DiceRoller
