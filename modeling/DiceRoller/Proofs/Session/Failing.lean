import DiceRoller.Proofs.Session.Reproducible

/-!
# Lines that fail

A line can fail at many places: it is no command, its notation is refused, its token is not there or
out of reach, or its total is too large.  All but the last of these come before the dice, and leave the
session as it is.  When the total is too large the dice are thrown already, so the generator has moved
on; the log and the tokens stay all the same.

Main results:

- Theorem `Descriptor.isInvalidNotation_of_parse`: why a notation is refused.
- Theorem `Command.isRefusal_of_request?`: a refusal is not worded like a total that is too large.
- Theorem `run_of_idle`: a line that gets nothing to the dice and fails leaves the session as it is.
- Theorem `accepted_or_idle`: a line gets an accepted notation to the dice, or nothing.
- Theorem `run_of_accepted`: what comes of them.
- Theorem `intact_of_error`: what a line that fails leaves behind.
-/

namespace DiceRoller

/-- A notation is refused for its form or for its numbers. -/
theorem Descriptor.isInvalidNotation_of_parse {cs : List Char} {e : Error}
    (h : Descriptor.parse cs = .error e) : e.isInvalidNotation = true := by
  rw [parse] at h
  rcases bind_eq_error_iff.1 h with hgrammar | ⟨phrase, -, hvalue⟩
  · obtain ⟨fault, -, rfl⟩ := mapError_eq_error_iff.1 hgrammar
    rfl
  · obtain ⟨fault, -, rfl⟩ := mapError_eq_error_iff.1 hvalue
    rfl

/-- A query is refused for its notation. -/
theorem Query.isInvalidNotation_of_parse {cs : List Char} {e : Error}
    (h : Query.parse cs = .error e) : e.isInvalidNotation = true := by
  rw [parse] at h
  cases hparse : Descriptor.parse cs with
  | error e' =>
    simp only [hparse, Except.map, Except.error.injEq] at h
    rw [← h]
    exact Descriptor.isInvalidNotation_of_parse hparse
  | ok d => simp [hparse, Except.map] at h

/-! ## Wordings -/

/-- A text that starts in another way is another text. -/
theorem append_ne_of_not_prefix (start : String) {rest text : String}
    (h : ¬ start.toList <+: text.toList) : start ++ rest ≠ text := by
  rintro rfl
  apply h
  rw [String.toList_append]
  exact List.prefix_append _ _

/-- What is wrong with a line is not worded like a total that is too large. -/
theorem CommandFault.message_ne (fault : CommandFault) :
    fault.message ≠ "error: total overflows" := by
  cases fault with
  | badModifier argument fault =>
    unfold message
    simp only [String.append_assoc]
    exact append_ne_of_not_prefix "`" (by decide)
  | badNumber argument =>
    unfold message
    simp only [String.append_assoc]
    exact append_ne_of_not_prefix "`" (by decide)
  | unknown word =>
    unfold message
    simp only [String.append_assoc]
    exact append_ne_of_not_prefix "unknown command `" (by decide)

namespace Diagnostic

/-- The wording of a total that is too large. -/
theorem message_failed_totalOverflow :
    (failed .totalOverflow).message = "error: total overflows" := by
  decide

/-- What is wrong with a notation is worded otherwise. -/
theorem announce_ne {e : Error} (h : e.isInvalidNotation = true) :
    announce e ≠ "error: total overflows" := by
  cases e with
  | grammar fault => exact append_ne_of_not_prefix "error\n" (by decide)
  | value fault =>
    show "error: " ++ ("invalid notation: " ++ fault.message) ≠ _
    rw [← String.append_assoc]
    exact append_ne_of_not_prefix ("error: " ++ "invalid notation: ") (by decide)
  | _ => cases h

/-- A number without a token is not announced as a total. -/
theorem message_noToken_ne (number : UInt64) :
    (noToken number).message ≠ "error: total overflows" := by
  rw [message, String.append_assoc]
  exact append_ne_of_not_prefix "no token `" (by decide)

/-- Nor is a difficulty class out of reach. -/
theorem message_dcOutOfRange_ne (dc : UInt64) :
    (dcOutOfRange dc).message ≠ "error: total overflows" := by
  rw [message, String.append_assoc]
  exact append_ne_of_not_prefix "DC `" (by decide)

/-- The library error that a diagnostic announces. -/
def error? : Diagnostic → Option Error
  | rejected _ error => some error
  | failed error => some error
  | _ => none

/-- A refusal: it announces nothing but what is wrong with a notation, and it is not worded like a total
that is too large. -/
structure IsRefusal (diagnostic : Diagnostic) : Prop where
  announces : ∀ e, diagnostic.error? = some e → e.isInvalidNotation = true
  wording : diagnostic.message ≠ "error: total overflows"

/-- A line that is no command is refused. -/
theorem isRefusal_command (fault : CommandFault) : (command fault).IsRefusal :=
  ⟨nofun, fault.message_ne⟩

/-- So is the number of no token. -/
theorem isRefusal_noToken (number : UInt64) : (noToken number).IsRefusal :=
  ⟨nofun, message_noToken_ne number⟩

/-- So is a difficulty class out of reach. -/
theorem isRefusal_dcOutOfRange (dc : UInt64) : (dcOutOfRange dc).IsRefusal :=
  ⟨nofun, message_dcOutOfRange_ne dc⟩

/-- So is a formula that is no notation. -/
theorem isRefusal_rejected (formula : List Char) {e : Error} (h : e.isInvalidNotation = true) :
    (rejected formula e).IsRefusal :=
  ⟨fun _ he => Option.some.inj he ▸ h, announce_ne h⟩

/-- So is a token whose formula is none. -/
theorem isRefusal_failed {e : Error} (h : e.isInvalidNotation = true) : (failed e).IsRefusal :=
  ⟨fun _ he => Option.some.inj he ▸ h, announce_ne h⟩

end Diagnostic

/-! ## Refused requests -/

/-- A roll that cannot be asked for is refused. -/
theorem isRefusal_of_rollRequest {formula : List Char} {diagnostic : Diagnostic}
    (h : rollRequest formula = .error diagnostic) : diagnostic.IsRefusal := by
  cases hparse : Descriptor.parse formula with
  | error e =>
    rw [rollRequest_of_error hparse] at h
    cases h
    exact Diagnostic.isRefusal_rejected formula (Descriptor.isInvalidNotation_of_parse hparse)
  | ok d =>
    rw [rollRequest_of_ok hparse] at h
    cases h

/-- So is a pick that cannot be asked for. -/
theorem isRefusal_of_pickRequest {tokens : List PlacedToken} {number : UInt64}
    {diagnostic : Diagnostic} (h : pickRequest tokens number = .error diagnostic) :
    diagnostic.IsRefusal := by
  cases hplaced : tokens[number.toNat - 1]? with
  | none =>
    rw [pickRequest_of_absent hplaced] at h
    cases h
    exact Diagnostic.isRefusal_noToken number
  | some placed =>
    cases hreach : Session.isOutOfReach placed.token.kind with
    | some dc =>
      rw [pickRequest_of_outOfReach hplaced hreach] at h
      cases h
      exact Diagnostic.isRefusal_dcOutOfRange dc
    | none =>
      cases hquery : placed.token.query with
      | error e =>
        rw [pickRequest_of_error hplaced hreach hquery] at h
        cases h
        exact Diagnostic.isRefusal_failed (Query.isInvalidNotation_of_parse hquery)
      | ok query =>
        rw [pickRequest_of_ok hplaced hreach hquery] at h
        cases h

/-- A command that asks for a roll and may not have it is refused. -/
theorem Command.isRefusal_of_request? {tokens : List PlacedToken} {command : Command}
    {diagnostic : Diagnostic} (h : command.request? tokens = some (.error diagnostic)) :
    diagnostic.IsRefusal := by
  cases command with
  | roll formula => exact isRefusal_of_rollRequest (Option.some.inj h)
  | pick number => exact isRefusal_of_pickRequest (Option.some.inj h)
  | _ => cases h

namespace Session

variable {time line : List Char} {s : Session} {diagnostic : Diagnostic}

/-- A line that gets nothing to the dice and fails is refused, and leaves the session as it is. -/
theorem run_of_idle (hidle : s.Idle line) (h : (s.run time line).1 = .error diagnostic) :
    diagnostic.IsRefusal ∧ (s.run time line).2 = s := by
  rcases hidle.course with ⟨fault, hparse⟩ | ⟨command, hparse, hasks | ⟨refusal, hrefused⟩⟩
  · rw [run_of_bad_command hparse] at h ⊢
    cases h
    exact ⟨Diagnostic.isRefusal_command fault, rfl⟩
  · obtain ⟨reply, -, hperform⟩ : ∃ reply, reply.roll? = none ∧
        s.perform time command = (.ok reply, s.behind command) := perform_of_not_asksForRoll hasks
    rw [run_of_parse hparse, hperform] at h
    cases h
  · rw [run_of_parse hparse, perform_of_request hrefused] at h ⊢
    cases h
    exact ⟨Command.isRefusal_of_request? hrefused, rfl⟩

/-- The query of a line whose notation is accepted: one that is typed, one with advantage or with
disadvantage, or that of a token that is there and not out of reach. -/
inductive Accepted (line : List Char) (s : Session) : Query → Prop
  | roll {formula : List Char} {query : Query} (parsed : Command.parse line = .ok (.roll formula))
      (accepted : Query.parse formula = .ok query) : Accepted line s query
  | advantage {modifier : Int64} (parsed : Command.parse line = .ok (.advantage modifier)) :
      Accepted line s (.advantage modifier)
  | disadvantage {modifier : Int64} (parsed : Command.parse line = .ok (.disadvantage modifier)) :
      Accepted line s (.disadvantage modifier)
  | pick {number : UInt64} {placed : PlacedToken} {query : Query}
      (parsed : Command.parse line = .ok (.pick number))
      (present : s.tokens[number.toNat - 1]? = some placed)
      (near : isOutOfReach placed.token.kind = none)
      (accepted : placed.token.query = .ok query) : Accepted line s query

/-- An accepted notation is asked for. -/
theorem Accepted.exists_request {query : Query} (h : s.Accepted line query) :
    ∃ request, s.request? line = some request ∧ request.query = query := by
  simp only [request?_eq_some_iff]
  cases h with
  | @roll formula _ parsed accepted =>
    refine ⟨⟨query, .rolled, fun _ => rfl⟩, ⟨_, parsed, ?_⟩, rfl⟩
    rw [Command.request?, rollRequest, accepted]
    rfl
  | advantage parsed => exact ⟨_, ⟨_, parsed, rfl⟩, rfl⟩
  | disadvantage parsed => exact ⟨_, ⟨_, parsed, rfl⟩, rfl⟩
  | pick parsed present near accepted =>
    exact ⟨_, ⟨_, parsed, congrArg some (pickRequest_of_ok present near accepted)⟩, rfl⟩

/-- And what is asked for is an accepted notation. -/
theorem accepted_of_request? {request : Request} (h : s.request? line = some request) :
    s.Accepted line request.query := by
  obtain ⟨command, hparse, hrequest⟩ := request?_eq_some_iff.1 h
  cases command with
  | roll formula => exact .roll hparse (parse_of_rollRequest (Option.some.inj hrequest))
  | advantage modifier =>
    cases hrequest
    exact .advantage hparse
  | disadvantage modifier =>
    cases hrequest
    exact .disadvantage hparse
  | pick number =>
    have hpick : pickRequest s.tokens number = .ok request := Option.some.inj hrequest
    obtain ⟨placed, hplaced, hquery⟩ := query_of_pickRequest hpick
    cases hreach : isOutOfReach placed.token.kind with
    | none => exact .pick hparse hplaced hreach hquery
    | some dc =>
      rw [pickRequest_of_outOfReach hplaced hreach] at hpick
      cases hpick
  | _ => cases hrequest

/-- A line either gets the query of an accepted notation to the dice, or it is idle. -/
theorem accepted_or_idle (line : List Char) (s : Session) :
    (∃ query, s.Accepted line query) ∨ s.Idle line := by
  cases hrequest : s.request? line with
  | none => exact Or.inr (request?_eq_none_iff.1 hrequest)
  | some request => exact Or.inl ⟨request.query, accepted_of_request? hrequest⟩

/-- What comes of a notation that is accepted: a reply, or a total that is too large, and in either case
the dice are thrown. -/
theorem run_of_accepted {query : Query} (time : List Char) (h : s.Accepted line query) :
    (∃ reply, (s.run time line).1 = .ok reply) ∨
      s.run time line =
        (.error (.failed .totalOverflow), ⟨query.descriptor.spend s.generator, s.log, s.tokens⟩) := by
  obtain ⟨request, hrequest, rfl⟩ := h.exists_request
  have hvalid := validate_of_request? hrequest
  rw [run_of_request? time hrequest]
  by_cases hfits : request.query.descriptor.randomTotal s.generator ≤ Int64.maxValue.toInt
  · obtain ⟨roll, hroll, -⟩ :=
      Descriptor.rollAs_random_of_le hvalid request.query.label hfits
    left
    exact ⟨request.reply roll, by rw [answerQuery_of_ok hroll]⟩
  · right
    exact answerQuery_of_error
      (Descriptor.rollAs_random_of_lt hvalid request.query.label (Int.not_le.1 hfits))

/-- A line that fails leaves the session intact.  Whatever the session and the line, a diagnostic leaves
the log and the tokens as they are, and the generator too, unless it says that the total is too large:
then the generator has thrown the dice of the notation, and no more.  Nothing else can go wrong with a
notation once it is accepted, and what else is announced is that a notation is refused. -/
theorem intact_of_error (time line : List Char) (s : Session) :
    let outcome := (s.run time line).1
    let behind := (s.run time line).2
    (∀ diagnostic, outcome = .error diagnostic →
      behind.log = s.log ∧ behind.tokens = s.tokens ∧
      (diagnostic.message ≠ "error: total overflows" → behind.generator = s.generator) ∧
      (diagnostic.message = "error: total overflows" →
        ∃ query, s.Accepted line query ∧
          behind.generator = Source.random.after query.descriptor.sides
            query.descriptor.count.toNat s.generator) ∧
      ∀ e, diagnostic.error? = some e → e = .totalOverflow ∨ e.isInvalidNotation = true) ∧
    ∀ query, s.Accepted line query →
      (∃ reply, outcome = .ok reply) ∨ outcome = .error (.failed .totalOverflow) := by
  intro outcome behind
  constructor
  · intro diagnostic houtcome
    rcases accepted_or_idle line s with ⟨query, haccepted⟩ | hidle
    · rcases run_of_accepted time haccepted with ⟨reply, hreply⟩ | hrun
      · cases houtcome.symm.trans hreply
      · have hbehind : behind = ⟨query.descriptor.spend s.generator, s.log, s.tokens⟩ :=
          congrArg Prod.snd hrun
        cases houtcome.symm.trans (congrArg Prod.fst hrun)
        rw [hbehind]
        refine ⟨rfl, rfl, fun hne => absurd Diagnostic.message_failed_totalOverflow hne,
          fun _ => ⟨query, haccepted, rfl⟩, ?_⟩
        intro e he
        exact Or.inl (Option.some.inj he).symm
    · obtain ⟨hrefusal, hbehind⟩ := run_of_idle hidle houtcome
      have hsame : behind = s := hbehind
      rw [hsame]
      exact ⟨rfl, rfl, fun _ => rfl, fun hmessage => absurd hmessage hrefusal.wording,
        fun e he => Or.inr (hrefusal.announces e he)⟩
  · intro query haccepted
    rcases run_of_accepted time haccepted with hreply | hrun
    · exact Or.inl hreply
    · exact Or.inr (congrArg Prod.fst hrun)

/-- A total that is too large by the one die that it takes: the first of two words is used up. -/
theorem intact_of_error_one_die :
    let s := start (.listed [3, 7]) 2
    let line := "1d6+9223372036854775807".toList
    let ran := s.run "09:15:00".toList line
    ran.1 = .error (.failed .totalOverflow) ∧ ran.2.log = s.log ∧ ran.2.tokens = s.tokens ∧
      ran.2.generator = .listed [7] ∧
      ∃ query, s.Accepted line query ∧
        Source.random.after query.descriptor.sides query.descriptor.count.toNat s.generator =
          .listed [7] := by
  intro s line ran
  have houtcome : (s.run "09:15:00".toList line).1 = .error (.failed .totalOverflow) := by
    decide +kernel
  have hleft : (s.run "09:15:00".toList line).2.generator = .listed [7] := by
    decide +kernel
  obtain ⟨hlog, htokens, -, hspent, -⟩ := (intact_of_error _ _ s).1 _ houtcome
  obtain ⟨query, haccepted, hthrown⟩ := hspent Diagnostic.message_failed_totalOverflow
  exact ⟨houtcome, hlog, htokens, hleft, query, haccepted, hthrown.symm.trans hleft⟩

end Session
end DiceRoller
