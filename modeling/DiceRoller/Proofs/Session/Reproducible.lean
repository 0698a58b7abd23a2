import DiceRoller.Proofs.Notation.Meaning
import DiceRoller.Proofs.Roll.Chance
import DiceRoller.Proofs.Session.Conversation

/-!
# Reproducible dice

What the dice of a session show depends on where its generator stands and on the descriptors that are
rolled, one after the other.  Nothing else that is typed has a say in it: a line either gets a
descriptor to the dice, and then the generator moves on as that descriptor has it, or it is idle and
the generator stays where it is.

Main results:

- Theorem `request?_eq_none_iff`: the lines that get nothing to the dice.
- Theorem `run_of_request?`: what comes of the other lines.
- Theorem `shown_eq_thrownInTurn`: what the dice show, told from the descriptors alone.
- Theorem `shown_reproducible`: equal generators and descriptors make equal dice.
-/

namespace DiceRoller

/-- The descriptor of a query that was read can be rolled. -/
theorem Query.validate_of_parse {cs : List Char} {query : Query} (h : Query.parse cs = .ok query) :
    query.descriptor.validate = .ok () := by
  rcases map_eq_ok_iff.1 h with ⟨d, hd, rfl⟩
  exact Descriptor.validate_of_parse hd

/-- What the dice show for a line that gets to them: a roll, whatever label it has, or a diagnostic. -/
def Exchange.shown (exchange : Exchange) : Except Diagnostic (Option Roll) :=
  exchange.outcome.map fun reply => reply.roll?.map Roll.unlabelled

/-- What came of some throws, as it is shown. -/
def Exchange.showing (thrown : Except Error Roll) : Except Diagnostic (Option Roll) :=
  (thrown.map some).mapError .failed

namespace Session

/-! ## Lines that get to the dice -/

/-- What a line asks for, if it is a command that asks for a roll and may have it. -/
def request? (line : List Char) (s : Session) : Option Request :=
  ((Command.parse line).toOption.bind (Command.request? s.tokens)).bind Except.toOption

/-- The query that a line gets to the dice. -/
def asked? (line : List Char) (s : Session) : Option Query :=
  (s.request? line).map Request.query

/-- The lines that get nothing to the dice: those that are no command, those that ask for no roll,
notations that are refused, and tokens that are not there, cannot be reached or cannot be read. -/
inductive Idle (line : List Char) (s : Session) : Prop
  | misread {fault : CommandFault} (parsed : Command.parse line = .error fault)
  | other {command : Command} (parsed : Command.parse line = .ok command)
      (asks : command.asksForRoll = false)
  | rejected {formula : List Char} {e : Error} (parsed : Command.parse line = .ok (.roll formula))
      (refused : Descriptor.parse formula = .error e)
  | noToken {number : UInt64} (parsed : Command.parse line = .ok (.pick number))
      (absent : s.tokens[number.toNat - 1]? = none)
  | outOfReach {number dc : UInt64} {placed : PlacedToken}
      (parsed : Command.parse line = .ok (.pick number))
      (present : s.tokens[number.toNat - 1]? = some placed)
      (far : isOutOfReach placed.token.kind = some dc)
  | unreadable {number : UInt64} {placed : PlacedToken} {e : Error}
      (parsed : Command.parse line = .ok (.pick number))
      (present : s.tokens[number.toNat - 1]? = some placed)
      (refused : placed.token.query = .error e)

variable {time line : List Char} {s : Session} {request : Request}

theorem request?_eq_some_iff :
    s.request? line = some request ↔
      ∃ command, Command.parse line = .ok command ∧
        command.request? s.tokens = some (.ok request) := by
  rw [request?, Option.bind_eq_some_iff]
  constructor
  · rintro ⟨result, hresult, hrequest⟩
    rcases Option.bind_eq_some_iff.1 hresult with ⟨command, hparse, hcommand⟩
    rw [toOption_eq_some_iff.1 hrequest] at hcommand
    exact ⟨command, toOption_eq_some_iff.1 hparse, hcommand⟩
  · rintro ⟨command, hparse, hcommand⟩
    refine ⟨.ok request, ?_, rfl⟩
    rw [hparse]
    exact hcommand

/-- The course of an idle line: it is no command, or one that asks for no roll, or it asks for a roll
that is refused before any dice are thrown. -/
theorem Idle.course (h : s.Idle line) :
    (∃ fault, Command.parse line = .error fault) ∨
      ∃ command, Command.parse line = .ok command ∧
        (command.asksForRoll = false ∨
          ∃ diagnostic, command.request? s.tokens = some (.error diagnostic)) := by
  cases h with
  | misread parsed => exact Or.inl ⟨_, parsed⟩
  | other parsed asks => exact Or.inr ⟨_, parsed, Or.inl asks⟩
  | rejected parsed refused =>
    exact Or.inr ⟨_, parsed, Or.inr ⟨_, congrArg some (rollRequest_of_error refused)⟩⟩
  | noToken parsed absent =>
    exact Or.inr ⟨_, parsed, Or.inr ⟨_, congrArg some (pickRequest_of_absent absent)⟩⟩
  | outOfReach parsed present far =>
    exact Or.inr ⟨_, parsed, Or.inr ⟨_, congrArg some (pickRequest_of_outOfReach present far)⟩⟩
  | @unreadable number placed e parsed present refused =>
    cases hreach : isOutOfReach placed.token.kind with
    | some dc =>
      exact Or.inr ⟨_, parsed, Or.inr ⟨_, congrArg some (pickRequest_of_outOfReach present hreach)⟩⟩
    | none =>
      exact Or.inr ⟨_, parsed, Or.inr ⟨_, congrArg some (pickRequest_of_error present hreach refused)⟩⟩

/-- A command that gets nothing to the dice makes its line idle. -/
theorem idle_of_request?_ne_ok {command : Command} (hparse : Command.parse line = .ok command)
    (h : ∀ request, command.request? s.tokens ≠ some (.ok request)) : s.Idle line := by
  cases command with
  | roll formula =>
    cases hformula : Descriptor.parse formula with
    | error e => exact .rejected hparse hformula
    | ok d => exact absurd (congrArg some (rollRequest_of_ok hformula)) (h _)
  | advantage modifier => exact absurd rfl (h _)
  | disadvantage modifier => exact absurd rfl (h _)
  | pick number =>
    cases hplaced : s.tokens[number.toNat - 1]? with
    | none => exact .noToken hparse hplaced
    | some placed =>
      cases hreach : isOutOfReach placed.token.kind with
      | some dc => exact .outOfReach hparse hplaced hreach
      | none =>
        cases hquery : placed.token.query with
        | error e => exact .unreadable hparse hplaced hquery
        | ok query => exact absurd (congrArg some (pickRequest_of_ok hplaced hreach hquery)) (h _)
  | _ => exact .other hparse rfl

/-- A line gets nothing to the dice just when it is idle. -/
theorem request?_eq_none_iff : s.request? line = none ↔ s.Idle line := by
  constructor
  · intro hnone
    cases hparse : Command.parse line with
    | error fault => exact .misread hparse
    | ok command =>
      apply idle_of_request?_ne_ok hparse
      intro request hrequest
      rw [request?_eq_some_iff.2 ⟨command, hparse, hrequest⟩] at hnone
      cases hnone
  · intro hidle
    rw [Option.eq_none_iff_forall_not_mem]
    intro request hrequest
    rcases request?_eq_some_iff.1 hrequest with ⟨command, hparse, hcommand⟩
    rcases hidle.course with ⟨fault, hfault⟩ | ⟨command', hparse', hasks | ⟨diagnostic, hrefused⟩⟩
    · rw [hparse] at hfault
      cases hfault
    · cases hparse.symm.trans hparse'
      rw [← Command.isSome_request? s.tokens, hcommand] at hasks
      cases hasks
    · cases hparse.symm.trans hparse'
      rw [hcommand] at hrefused
      cases hrefused

/-- An idle line leaves the generator where it is. -/
theorem generator_run_of_idle (time : List Char) (h : s.Idle line) :
    (s.run time line).2.generator = s.generator := by
  rcases h.course with ⟨fault, hparse⟩ | ⟨command, hparse, hasks | ⟨diagnostic, hrefused⟩⟩
  · rw [run_of_bad_command hparse]
  · have hanswered : ∃ reply, reply.roll? = none ∧
        s.perform time command = (.ok reply, s.behind command) := perform_of_not_asksForRoll hasks
    rcases hanswered with ⟨reply, -, hperform⟩
    rw [run_of_parse hparse, hperform]
    rfl
  · rw [run_of_parse hparse, perform_of_request hrefused]
    rfl

/-- Another line is answered by what it asks for. -/
theorem run_of_request? (time : List Char) (h : s.request? line = some request) :
    s.run time line = s.answerQuery time request.query request.reply := by
  rcases request?_eq_some_iff.1 h with ⟨command, hparse, hrequest⟩
  rw [run_of_parse hparse, perform_of_request hrequest]
  rfl

/-- What a line gets to the dice can be rolled. -/
theorem validate_of_request? (h : s.request? line = some request) :
    request.query.descriptor.validate = .ok () := by
  rcases request?_eq_some_iff.1 h with ⟨command, -, hrequest⟩
  cases command with
  | roll formula =>
    exact Query.validate_of_parse (parse_of_rollRequest (Option.some.inj hrequest))
  | advantage modifier =>
    cases hrequest
    exact Descriptor.validate_two_d20 (by decide) modifier
  | disadvantage modifier =>
    cases hrequest
    exact Descriptor.validate_two_d20 (by decide) modifier
  | pick number =>
    rcases query_of_pickRequest (Option.some.inj hrequest) with ⟨placed, -, hquery⟩
    exact Query.validate_of_parse hquery
  | _ => cases hrequest

/-! ## What the dice show -/

section Steps

variable (time : List Char) (h : s.request? line = some request)

include h

/-- The dice are thrown by the generator, and it moves on as the descriptor has it. -/
theorem generator_run_of_request? :
    (s.run time line).2.generator = request.query.descriptor.spend s.generator := by
  rw [run_of_request? time h, answerQuery, Query.solveInto, Query.solve,
    Descriptor.rollAs_random (validate_of_request? h)]
  cases request.query.descriptor.settle request.query.label
      (request.query.descriptor.randomThrows s.generator) with
  | error e => rfl
  | ok roll => rfl

/-- What the dice show is what the generator throws, whatever the line and the rest of the session. -/
theorem shown_exchange_of_request? :
    (s.exchange time line).shown =
      Exchange.showing (request.query.descriptor.thrown s.generator) := by
  rw [Exchange.shown, exchange, run_of_request? time h, answerQuery, Query.solveInto, Query.solve,
    Descriptor.rollAs_random (validate_of_request? h), Descriptor.thrown,
    ← Descriptor.map_unlabelled_settle _ request.query.label]
  cases request.query.descriptor.settle request.query.label
      (request.query.descriptor.randomThrows s.generator) with
  | error e => rfl
  | ok roll =>
    show Except.ok ((request.reply roll).roll?.map Roll.unlabelled) = _
    rw [request.shows roll]
    rfl

end Steps

/-! ## Many lines -/

/-- What some lines get to the dice, in order: each query with what was said about its line. -/
def rolls : List (List Char × List Char) → Session → List (Query × Exchange)
  | [], _ => []
  | (time, line) :: lines, s =>
    ((s.asked? line).map fun query => (query, s.exchange time line)).toList ++
      rolls lines (s.run time line).2

/-- The descriptors that some lines get to the dice. -/
def descriptors (lines : List (List Char × List Char)) (s : Session) : List Descriptor :=
  (s.rolls lines).map fun rolled => rolled.1.descriptor

/-- What the dice show for these lines. -/
def shown (lines : List (List Char × List Char)) (s : Session) :
    List (Except Diagnostic (Option Roll)) :=
  (s.rolls lines).map fun rolled => rolled.2.shown

variable {lines : List (List Char × List Char)}

theorem rolls_cons_of_idle (time : List Char) (h : s.Idle line) :
    s.rolls ((time, line) :: lines) = (s.run time line).2.rolls lines := by
  rw [rolls, asked?, request?_eq_none_iff.2 h]
  rfl

theorem rolls_cons_of_request? (time : List Char) (h : s.request? line = some request) :
    s.rolls ((time, line) :: lines) =
      (request.query, s.exchange time line) :: (s.run time line).2.rolls lines := by
  rw [rolls, asked?, h]
  rfl

/-- What the dice show and where the generator ends can be told from the descriptors alone. -/
theorem shown_eq_thrownInTurn (lines : List (List Char × List Char)) (s : Session) :
    s.shown lines =
        (Descriptor.thrownInTurn (s.descriptors lines) s.generator).map Exchange.showing ∧
      (s.after lines).generator = Descriptor.spendInTurn (s.descriptors lines) s.generator := by
  induction lines generalizing s with
  | nil => exact ⟨rfl, rfl⟩
  | cons typed lines ih =>
    rcases typed with ⟨time, line⟩
    have hbehind := ih (s.run time line).2
    cases hrequest : s.request? line with
    | none =>
      -- The line adds nothing to the rolls, and the generator stands still.
      have hidle := request?_eq_none_iff.1 hrequest
      rw [generator_run_of_idle time hidle] at hbehind
      rw [shown, descriptors, rolls_cons_of_idle time hidle, after_cons]
      exact hbehind
    | some request =>
      rw [generator_run_of_request? time hrequest] at hbehind
      rw [shown, descriptors, rolls_cons_of_request? time hrequest, after_cons, List.map_cons,
        List.map_cons, Descriptor.thrownInTurn, List.map_cons,
        shown_exchange_of_request? time hrequest]
      exact ⟨congrArg _ hbehind.1, hbehind.2⟩

/-- The dice of every line that gets to them show a roll of its descriptor, or a total that is too
large. -/
theorem shown_of_mem_rolls {rolled : Query × Exchange} (h : rolled ∈ s.rolls lines) :
    (∃ roll, rolled.2.shown = .ok (some roll) ∧ roll.descriptor = rolled.1.descriptor) ∨
      rolled.2.shown = .error (.failed .totalOverflow) := by
  induction lines generalizing s with
  | nil => cases h
  | cons typed lines ih =>
    rcases typed with ⟨time, line⟩
    cases hrequest : s.request? line with
    | none =>
      rw [rolls_cons_of_idle time (request?_eq_none_iff.1 hrequest)] at h
      exact ih h
    | some request =>
      rw [rolls_cons_of_request? time hrequest] at h
      rcases List.mem_cons.1 h with rfl | hbehind
      · rw [shown_exchange_of_request? time hrequest]
        rcases Descriptor.thrown_cases (validate_of_request? hrequest) s.generator with
          ⟨roll, hroll, hdescriptor⟩ | hfailed
        · rw [hroll]
          exact Or.inl ⟨roll, rfl, hdescriptor⟩
        · rw [hfailed]
          exact Or.inr rfl
      · exact ih hbehind

/-- Equal generators and descriptors make equal dice.  Two sessions whose generators stand at the same
place, with any logs and any tokens, may be told any lines: when these get the same descriptors to the
dice, in the same order, then the dice show the same, which is for each line a roll of its descriptor
or a total that is too large, and the generators end at the same place.  A line gets nothing to the
dice just when it is idle, and then it leaves the generator where it is; any other line is answered by
rolling what it gets there. -/
theorem shown_reproducible (s t : Session) (lines lines' : List (List Char × List Char)) :
    (s.generator = t.generator ∧ s.descriptors lines = t.descriptors lines' →
      s.shown lines = t.shown lines' ∧
        (s.after lines).generator = (t.after lines').generator) ∧
    (∀ rolled ∈ s.rolls lines,
      (∃ roll, rolled.2.shown = .ok (some roll) ∧ roll.descriptor = rolled.1.descriptor) ∨
        rolled.2.shown = .error (.failed .totalOverflow)) ∧
    ∀ time line, (s.asked? line = none ↔ s.Idle line) ∧
      (s.Idle line → (s.run time line).2.generator = s.generator) ∧
      ∀ query, s.asked? line = some query →
        ∃ reply, s.run time line = s.answerQuery time query reply := by
  refine ⟨?_, fun rolled hrolled => shown_of_mem_rolls hrolled, ?_⟩
  · rintro ⟨hgenerator, hdescriptors⟩
    rcases shown_eq_thrownInTurn lines s with ⟨hshown, hend⟩
    rcases shown_eq_thrownInTurn lines' t with ⟨hshown', hend'⟩
    rw [hgenerator, hdescriptors] at hshown hend
    exact ⟨hshown.trans hshown'.symm, hend.trans hend'.symm⟩
  · intro time line
    rw [asked?, Option.map_eq_none_iff]
    refine ⟨request?_eq_none_iff, generator_run_of_idle time, ?_⟩
    intro query hquery
    rcases Option.map_eq_some_iff.1 hquery with ⟨request, hrequest, rfl⟩
    exact ⟨request.reply, run_of_request? time hrequest⟩

/-- A roll, typed or picked among much else, and one with advantage behind it. -/
theorem shown_reproducible_picked :
    let s := start (.listed [3, 11529215046068469760, 8070450532247928832, 9]) 0
    let t := start (.listed [3, 11529215046068469760, 8070450532247928832, 9]) 5
    let lines := ["2d6", "!adv 1"].map fun line => ("09:15:00".toList, line.toList)
    let lines' := ["!scan roll 2d6", "!pick 2", "1d0", "!roll", "!p 1", "!history", "!adv + 1"].map
      fun line => ("21:45:00".toList, line.toList)
    s.shown lines = t.shown lines' ∧ (s.after lines).generator = (t.after lines').generator := by
  intro s t lines lines'
  have hdescriptors : s.descriptors lines = t.descriptors lines' := by decide +kernel
  exact (shown_reproducible s t lines lines').1 ⟨rfl, hdescriptors⟩

end Session
end DiceRoller
