import DiceRoller.Proofs.Roll.Chance
import DiceRoller.Proofs.Session.Room
import DiceRoller.Proofs.Session.Spelling

/-!
# Shorthands for rolls

Two verbs stand for notations: one for two dice of twenty sides of which the higher counts, the
other for two of which the lower counts, each with the modifier behind it.  A line with such a verb
and the line that types the notation ask for the same query.  So they throw the same dice, keep the
same roll, and say the same apart from the heading.

Main results:

- Theorem `answeredAlike_answerQuery`: the same query under two headings.
- Theorem `run_of_dice`: a line that types the notation of some dice.
- Theorem `shorthands_answeredAlike`: the verbs and the notations that they stand for.
-/

namespace DiceRoller

/-- What stands below the first line of a text. -/
def Text.belowFirstLine (cs : List Char) : List Char :=
  (cutAt '\n' cs).2

theorem Text.belowFirstLine_append {line heading : List Char} (hline : line = heading ++ ['\n'])
    (h : '\n' ∉ heading) (rest : List Char) : belowFirstLine (line ++ rest) = rest := by
  rw [hline, List.append_assoc, List.singleton_append, belowFirstLine, cutAt_append h]

/-- The notation of two dice of twenty sides. -/
theorem Descriptor.canonical_two_d20 (keep : Keep) (modifier : Int64) :
    (dice 2 20 (some keep) modifier).canonical =
      "2d20".toList ++ keep.render ++ renderModifier modifier := by
  have htwo : Decimal.digits 2 = ['2'] := Decimal.digits_of_lt (by decide)
  have htwenty : Decimal.digits 20 = ['2', '0'] := by
    rw [Decimal.digits_of_le (by decide), Decimal.digits_of_lt (by decide)]
    rfl
  show Decimal.digits 2 ++ 'd' :: Decimal.digits 20 ++ keep.render ++ renderModifier modifier = _
  rw [htwo, htwenty]
  rfl

/-- A query for the notation of dice is the query for these dice. -/
theorem Query.parse_dice {count sides : UInt64} {keep : Option Keep} {modifier : Int64}
    (hsides : 1 ≤ sides) (hvalid : (Descriptor.dice count sides keep modifier).validate = .ok ()) :
    Query.parse (Descriptor.dice count sides keep modifier).canonical =
      .ok (.ofDescriptor (.dice count sides keep modifier)) := by
  rw [Query.parse, Descriptor.parse_dice hsides hvalid]
  rfl

namespace Reply

theorem belowFirstLine_rolled (roll : Roll) :
    Text.belowFirstLine (rolled roll).text = roll.render := by
  have hline : "**rolling**\n".toList = "**rolling**".toList ++ ['\n'] := by decide
  exact Text.belowFirstLine_append hline (by decide) roll.render

theorem belowFirstLine_advantage (roll : Roll) :
    Text.belowFirstLine (advantage roll).text = roll.render := by
  have hline : "**advantage**\n".toList = "**advantage**".toList ++ ['\n'] := by decide
  exact Text.belowFirstLine_append hline (by decide) roll.render

theorem belowFirstLine_disadvantage (roll : Roll) :
    Text.belowFirstLine (disadvantage roll).text = roll.render := by
  have hline : "**disadvantage**\n".toList = "**disadvantage**".toList ++ ['\n'] := by decide
  exact Text.belowFirstLine_append hline (by decide) roll.render

end Reply

namespace Session

/-- Two lines are answered alike: by replies that differ in their first lines at most, or by the
same diagnostic.  The sessions behind them are alike, with logs of the same rolls. -/
structure AnsweredAlike (a b : Except Diagnostic Reply × Session) : Prop where
  said : (∃ reply reply', a.1 = .ok reply ∧ b.1 = .ok reply' ∧
      Text.belowFirstLine reply.text = Text.belowFirstLine reply'.text) ∨
    ∃ diagnostic, a.1 = .error diagnostic ∧ b.1 = .error diagnostic
  alike : a.2.Alike b.2
  capacity : a.2.log.capacity = b.2.log.capacity
  rolls : a.2.log.entries.map LogEntry.roll = b.2.log.entries.map LogEntry.roll

variable {now now' : List Char} {s : Session}

/-- The same query has the same answer under two headings. -/
theorem answeredAlike_answerQuery (query : Query) {reply reply' : Roll → Reply}
    (h : ∀ roll, Text.belowFirstLine (reply roll).text = Text.belowFirstLine (reply' roll).text) :
    AnsweredAlike (s.answerQuery now query reply) (s.answerQuery now' query reply') := by
  rcases hsolve : query.solve .random s.generator with ⟨outcome, generator⟩
  cases outcome with
  | error e =>
    rw [answerQuery_of_error hsolve, answerQuery_of_error hsolve]
    exact ⟨Or.inr ⟨_, rfl, rfl⟩, ⟨rfl, rfl⟩, rfl, rfl⟩
  | ok roll =>
    rw [answerQuery_of_ok hsolve, answerQuery_of_ok hsolve]
    refine ⟨Or.inl ⟨_, _, rfl, rfl, h roll⟩, ⟨rfl, rfl⟩, rfl, ?_⟩
    -- Only the times of the new entries differ.
    simp only [Log.entries_record, List.map_take, List.map_cons]

/-- A line that types the notation of some dice is answered by rolling them. -/
theorem run_of_dice {count sides : UInt64} {keep : Option Keep} {modifier : Int64}
    (hsides : 1 ≤ sides) (hvalid : (Descriptor.dice count sides keep modifier).validate = .ok ()) :
    s.run now (Descriptor.dice count sides keep modifier).canonical =
      s.answerQuery now (.ofDescriptor (.dice count sides keep modifier)) .rolled := by
  have hline := Command.parse_of_mem_notationChars
    (Descriptor.mem_notationChars_dice count sides keep modifier)
  rw [run_of_parse hline, perform, Query.parse_dice hsides hvalid]

/-- A line that is answered by two dice of twenty sides under a heading of its own is answered like
their notation. -/
theorem answeredAlike_two_d20 {line : List Char} {keep : Keep} {modifier : Int64}
    {reply : Roll → Reply} (hkeep : keep.count ≠ 0)
    (hline : s.run now line =
      s.answerQuery now (.ofDescriptor (.dice 2 20 (some keep) modifier)) reply)
    (hreply : ∀ roll, Text.belowFirstLine (reply roll).text = roll.render) :
    AnsweredAlike (s.run now line)
      (s.run now' ("2d20".toList ++ keep.render ++ Descriptor.renderModifier modifier)) := by
  rw [hline, ← Descriptor.canonical_two_d20,
    run_of_dice (by decide) (Descriptor.validate_two_d20 hkeep modifier)]
  apply answeredAlike_answerQuery
  intro roll
  rw [hreply, Reply.belowFirstLine_rolled]

theorem run_of_advantage (modifier : Int64) :
    s.run now ("!adv ".toList ++ Decimal.signed modifier.toInt) =
      s.answerQuery now (.advantage modifier) .advantage := by
  have hline : Command.parse ("!adv ".toList ++ Decimal.signed modifier.toInt) =
      .ok (.advantage modifier) := by
    refine (Command.parse_renderVerb_signed .advantage modifier.toInt).trans ?_
    rw [Command.ofVerb, Command.readModifier_signed]
    rfl
  rw [run_of_parse hline, perform]

theorem run_of_disadvantage (modifier : Int64) :
    s.run now ("!dis ".toList ++ Decimal.signed modifier.toInt) =
      s.answerQuery now (.disadvantage modifier) .disadvantage := by
  have hline : Command.parse ("!dis ".toList ++ Decimal.signed modifier.toInt) =
      .ok (.disadvantage modifier) := by
    refine (Command.parse_renderVerb_signed .disadvantage modifier.toInt).trans ?_
    rw [Command.ofVerb, Command.readModifier_signed]
    rfl
  rw [run_of_parse hline, perform]

/-- The verbs stand for notations.  In every session and with every modifier, the line with a verb
and the line that types its notation, with the modifier behind it unless that is zero, are answered
alike, whatever the times at which they are typed: both fail with the same diagnostic, or both are
answered by replies that agree below their first lines; and behind them the generators are equal,
the tokens are equal, and the logs hold the same rolls. -/
theorem shorthands_answeredAlike (now now' : List Char) (modifier : Int64) (s : Session) :
    let signed := Decimal.signed modifier.toInt
    let behind := if modifier = 0 then [] else Decimal.withSign modifier.toInt
    AnsweredAlike (s.run now ("!adv ".toList ++ signed))
        (s.run now' ("2d20kh1".toList ++ behind)) ∧
      AnsweredAlike (s.run now ("!dis ".toList ++ signed))
        (s.run now' ("2d20kl1".toList ++ behind)) := by
  intro signed behind
  have hone : Decimal.digits 1 = ['1'] := Decimal.digits_of_lt (by decide)
  have hhigh : "2d20kh1".toList = "2d20".toList ++ (Keep.high 1).render := by
    show _ = "2d20".toList ++ 'k' :: 'h' :: Decimal.digits 1
    rw [hone]
    rfl
  have hlow : "2d20kl1".toList = "2d20".toList ++ (Keep.low 1).render := by
    show _ = "2d20".toList ++ 'k' :: 'l' :: Decimal.digits 1
    rw [hone]
    rfl
  rw [hhigh, hlow]
  exact ⟨answeredAlike_two_d20 (by decide) (run_of_advantage modifier)
      Reply.belowFirstLine_advantage,
    answeredAlike_two_d20 (by decide) (run_of_disadvantage modifier)
      Reply.belowFirstLine_disadvantage⟩

end Session
end DiceRoller
