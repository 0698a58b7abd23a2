import Mathlib.Data.List.TakeWhile
import DiceRoller.Console.Run
import DiceRoller.Proofs.Session.Conversation

/-!
# Dialogues

A run of the program is a conversation of one session.  The lines that the line reader delivers up to the
first ending, such as the end of the input or a line that is not UTF-8, get to the session one after the
other, those of blanks only left out.  Every reply is shown on standard output and every diagnostic on
standard error, and neither of them ends the loop.  On a terminal, and where the environment names one on
which lines cannot be edited, there are prompts on standard output as well.

Main results:

- Theorem `logged_of_feed_not_mem`: a message without line feeds is logged in one line.
- Theorem `Serves.turn`: what one more line adds to what the console does.
- Theorem `serves_runLines`: the loop over what is read.
- Theorem `runOn_of_read`: a whole run.
-/

namespace DiceRoller

/-! ## Messages of one line -/

namespace Text

/-- A digit of any base up to 16 is no line feed. -/
theorem digitChar_ne_feed (n : Nat) : Nat.digitChar n ≠ '\n' := by
  simp [Nat.digitChar, ite_eq_iff]

/-- A number in base 16 has no line feed. -/
theorem feed_not_mem_toDigits (n : Nat) : '\n' ∉ Nat.toDigits 16 n := by
  induction n using Nat.strongRecOn with
  | ind n ih =>
    rw [Nat.toDigits_eq_if (by omega)]
    by_cases hsmall : n < 16
    · rw [if_pos hsmall, List.mem_singleton]
      exact (digitChar_ne_feed n).symm
    · rw [if_neg hsmall, List.mem_append, List.mem_singleton, not_or]
      exact ⟨ih (n / 16) (by omega), (digitChar_ne_feed _).symm⟩

/-- A character between quotes is never a line feed. -/
theorem feed_not_mem_quoteChar (c : Char) : '\n' ∉ quoteChar c := by
  unfold quoteChar
  split
  case h_7 hfeed _ =>
    split
    · simpa using Ne.symm hfeed
    · simp [feed_not_mem_toDigits]
  all_goals decide

/-- A text between quotes has no line feed. -/
theorem feed_not_mem_quoted (cs : List Char) : '\n' ∉ quoted cs := by
  simp [quoted, feed_not_mem_quoteChar]

/-- A number has no line feed. -/
theorem feed_not_mem_digits (n : Nat) : '\n' ∉ Decimal.digits n := fun hfeed =>
  absurd (Decimal.isDigit_of_mem_digits n _ hfeed) (by decide)

/-- A number with its sign has no line feed. -/
theorem feed_not_mem_signed (n : Int) : '\n' ∉ Decimal.signed n := by
  rw [Decimal.signed]
  split
  · simp [feed_not_mem_digits]
  · exact feed_not_mem_digits _

end Text

namespace Output

/-- A character that is spelled out shows no line feed. -/
theorem feed_not_mem_spellOut (c : Char) : '\n' ∉ spellOut c := by
  unfold spellOut
  split
  · simp [Text.feed_not_mem_toDigits]
  · simp [Text.feed_not_mem_toDigits]

/-- Spelling out makes no line feeds. -/
theorem feed_not_mem_logText {message : List Char} (h : '\n' ∉ message) :
    '\n' ∉ logText message := by
  rw [logText, List.mem_flatMap]
  rintro ⟨c, hc, hfeed⟩
  split at hfeed
  · exact feed_not_mem_spellOut c hfeed
  · rw [List.mem_singleton] at hfeed
    exact h (hfeed ▸ hc)

/-- A message without line feeds is logged in one line. -/
theorem logged_of_feed_not_mem {message : List Char} (h : '\n' ∉ message) (severity : Severity) :
    logged severity message = [.log severity (logText message)] := by
  have hplain : ∀ c ∈ logText message, (c != '\n') = true := by
    intro c hc
    rw [bne_iff_ne]
    rintro rfl
    exact feed_not_mem_logText h hc
  rw [logged]
  simp only [List.takeWhile_eq_self_iff.2 hplain, List.dropWhile_eq_nil_iff.2 hplain,
    List.tail?_nil]

/-- What a stream has of the things shown in turn, if it has one text of each at the most. -/
theorem filterMap_flatMap_eq {α β : Type} {shown : α → List Output}
    {stream : Output → Option (List Char)} {part : α → Option β} {text : β → List Char}
    (h : ∀ a, (shown a).filterMap stream = ((part a).map text).toList) (turns : List α) :
    (turns.flatMap shown).filterMap stream = (turns.filterMap part).map text := by
  induction turns with
  | nil => rfl
  | cons a turns ih =>
    rw [List.flatMap_cons, List.filterMap_append, h, ih, List.filterMap_cons]
    cases part a with
    | none => rfl
    | some b => rfl

/-- Nothing that is logged is shown on standard output. -/
theorem standard?_logged (severity : Severity) (message : List Char) :
    (logged severity message).filterMap standard? = [] := by
  rw [logged]
  split <;> rfl

/-! ### Lines for debugging -/

/-- What is shown without debugging is shown with it. -/
theorem isShown_of_isShown_false {output : Output} (h : output.isShown false = true)
    (debugging : Bool) : output.isShown debugging = true := by
  unfold isShown at h ⊢
  split at h
  · cases h
  · rfl

/-- Leaving out the lines for debugging takes nothing from a stream that has no log lines. -/
theorem filterMap_filter_isShown {stream : Output → Option (List Char)}
    (h : ∀ severity text, stream (.log severity text) = none) (debugging : Bool)
    (outputs : List Output) :
    (outputs.filter (isShown debugging)).filterMap stream = outputs.filterMap stream := by
  rw [List.filterMap_filter]
  congr 1
  funext output
  cases output with
  | log severity text =>
    rw [h]
    exact ite_self none
  | standard text => rfl
  | error text => rfl

/-- Leaving out the lines for debugging twice is doing it once. -/
theorem filter_isShown_filter_isShown (debugging : Bool) (outputs : List Output) :
    (outputs.filter (isShown debugging)).filter (isShown false) = outputs.filter (isShown false) := by
  rw [List.filter_filter]
  refine List.filter_congr fun output _ => ?_
  cases hshown : output.isShown false with
  | false => rfl
  | true => rw [isShown_of_isShown_false hshown, Bool.and_self]

/-- What is shown without debugging stays when lines for debugging are left out. -/
theorem filter_isShown_of_filter_eq {outputs : List Output}
    (h : outputs.filter (isShown false) = outputs) (debugging : Bool) :
    outputs.filter (isShown debugging) = outputs := by
  rw [List.filter_eq_self] at h ⊢
  intro output houtput
  exact isShown_of_isShown_false (h output houtput) debugging

/-- A message for debugging without line feeds is nothing but a line for debugging. -/
theorem filter_logged_debug {message : List Char} (h : '\n' ∉ message) :
    (logged .debug message).filter (isShown false) = [] := by
  rw [logged_of_feed_not_mem h]
  rfl

end Output

/-! ## What is shown for an answer -/

/-- The reply to a line, if it was answered by one. -/
def Exchange.reply? (exchange : Exchange) : Option Reply :=
  exchange.outcome.toOption

/-- The diagnostic for a line, if it was answered by one. -/
def Exchange.diagnostic? (exchange : Exchange) : Option Diagnostic :=
  match exchange.outcome with
  | .ok _ => none
  | .error diagnostic => some diagnostic

/-- A diagnostic as the terminal shows it. -/
def Diagnostic.shown (coloured : Bool) (diagnostic : Diagnostic) : List Char :=
  Tint.boldRed.paint coloured diagnostic.message.toList ++ ['\n']

/-- A description has no line feed if its two parts have none. -/
theorem Command.feed_not_mem_describe {name argument : List Char} (hname : '\n' ∉ name)
    (hargument : '\n' ∉ argument) : '\n' ∉ describe name argument := by
  simp [describe, hname, hargument]

/-- The name of a command in a log line has no line feed, whatever was typed. -/
theorem Command.feed_not_mem_description (command : Command) : '\n' ∉ command.description := by
  cases command with
  | roll formula => exact feed_not_mem_describe (by decide) (Text.feed_not_mem_quoted formula)
  | advantage modifier => exact feed_not_mem_describe (by decide) (Text.feed_not_mem_signed _)
  | disadvantage modifier => exact feed_not_mem_describe (by decide) (Text.feed_not_mem_signed _)
  | scan text => exact feed_not_mem_describe (by decide) (Text.feed_not_mem_quoted text)
  | annotate text => exact feed_not_mem_describe (by decide) (Text.feed_not_mem_quoted text)
  | pick number => exact feed_not_mem_describe (by decide) (Text.feed_not_mem_digits _)
  | history => decide
  | clear => decide
  | help => decide

/-- What is logged about a command is there for debugging. -/
theorem Command.filter_logged (command : Command) :
    command.logged.filter (Output.isShown false) = [] := by
  apply Output.filter_logged_debug
  rw [List.mem_append, not_or]
  exact ⟨by decide, command.feed_not_mem_description⟩

/-- What is logged about a roll is there for debugging. -/
theorem Roll.filter_logged (roll : Roll) : roll.logged.filter (Output.isShown false) = [] := by
  apply Output.filter_logged_debug
  simp [Text.feed_not_mem_quoted, Text.feed_not_mem_signed]

/-- What is logged while a line is answered is there for debugging. -/
theorem Output.filter_tracing (line : List Char) (outcome : Except Diagnostic Reply) :
    (tracing line outcome).filter (isShown false) = [] := by
  rw [tracing]
  cases Command.parse line with
  | error fault => rfl
  | ok command =>
    simp only [List.filter_append, command.filter_logged, List.nil_append]
    cases outcome.toOption.bind Reply.roll? with
    | none => rfl
    | some roll => exact roll.filter_logged

/-- A diagnostic is logged in a warning at the most. -/
theorem Diagnostic.logged_cases (diagnostic : Diagnostic) :
    diagnostic.logged = [] ∨ ∃ text, diagnostic.logged = [.log .warning text] := by
  cases diagnostic with
  | rejected formula error =>
    have hfeed : '\n' ∉ "rejected notation query=".toList ++ Text.quoted formula := by
      rw [List.mem_append, not_or]
      exact ⟨by decide, Text.feed_not_mem_quoted formula⟩
    exact .inr ⟨_, Output.logged_of_feed_not_mem hfeed _⟩
  | _ => exact .inl rfl

/-- A diagnostic adds nothing to the two streams by what is logged about it. -/
theorem Diagnostic.streams_logged (diagnostic : Diagnostic) :
    diagnostic.logged.filterMap Output.standard? = [] ∧
      diagnostic.logged.filterMap Output.error? = [] := by
  obtain h | ⟨text, h⟩ := diagnostic.logged_cases
  all_goals
    rw [h]
    exact ⟨rfl, rfl⟩

/-- An answer has no lines for debugging. -/
theorem Output.filter_ofAnswer (coloured : Bool) (outcome : Except Diagnostic Reply) :
    (ofAnswer coloured outcome).filter (isShown false) = ofAnswer coloured outcome := by
  cases outcome with
  | ok reply => rfl
  | error diagnostic =>
    rw [ofAnswer]
    obtain h | ⟨text, h⟩ := diagnostic.logged_cases
    all_goals
      rw [h]
      rfl

namespace Exchange

variable (coloured : Bool) (exchange : Exchange)

/-- A reply makes one text on standard output, a diagnostic none. -/
theorem standard?_ofAnswer :
    (Output.ofAnswer coloured exchange.outcome).filterMap Output.standard? =
      (exchange.reply?.map (Reply.shown coloured)).toList := by
  rw [reply?]
  cases exchange.outcome with
  | ok reply => rfl
  | error diagnostic =>
    rw [Output.ofAnswer, List.filterMap_append, diagnostic.streams_logged.1]
    rfl

/-- A diagnostic makes one text on standard error, a reply none. -/
theorem error?_ofAnswer :
    (Output.ofAnswer coloured exchange.outcome).filterMap Output.error? =
      (exchange.diagnostic?.map (Diagnostic.shown coloured)).toList := by
  rw [diagnostic?]
  cases exchange.outcome with
  | ok reply => rfl
  | error diagnostic =>
    rw [Output.ofAnswer, List.filterMap_append, diagnostic.streams_logged.2]
    rfl

end Exchange

/-! ## The loop -/

namespace Console

/-- What gets to the session of some texts, the first of which has the given number: those in which
there is a character that is no blank, each with the time of day at which it is read. -/
def heard (clock : Nat → List Char) (number : Nat) (texts : List (List Char)) :
    List (List Char × List Char) :=
  ((texts.zipIdx number).filter fun text => text.1.any fun c => !Text.isBlank c).map fun text =>
    (clock text.2, text.1)

/-- What is shown for the lines that get to the session and at the end, prompts and lines for debugging
aside. -/
def answers (typed : List (List Char × List Char)) (ending : Ending) (console : Console) :
    List Output :=
  (console.session.exchanges typed).flatMap
      (fun exchange => Output.ofAnswer console.coloured exchange.outcome) ++
    showEnding console.coloured ending

variable {clock : Nat → List Char} {typed : List (List Char × List Char)} {ending : Ending}
  {console : Console}

/-- Every reply makes one text on standard output. -/
theorem standard?_answers :
    (console.answers typed ending).filterMap Output.standard? =
      ((console.session.exchanges typed).filterMap Exchange.reply?).map
        (Reply.shown console.coloured) := by
  rw [answers, List.filterMap_append,
    Output.filterMap_flatMap_eq (Exchange.standard?_ofAnswer console.coloured)]
  exact List.append_nil _

/-- Every diagnostic makes one text on standard error, and the ending does. -/
theorem error?_answers :
    (console.answers typed ending).filterMap Output.error? =
      ((console.session.exchanges typed).filterMap Exchange.diagnostic?).map
          (Diagnostic.shown console.coloured) ++
        (showEnding console.coloured ending).filterMap Output.error? := by
  rw [answers, List.filterMap_append,
    Output.filterMap_flatMap_eq (Exchange.error?_ofAnswer console.coloured)]

/-- The answers have no lines for debugging. -/
theorem filter_answers :
    (console.answers typed ending).filter (Output.isShown false) = console.answers typed ending := by
  have hsaid : ∀ exchanges : List Exchange,
      (exchanges.flatMap fun exchange =>
          Output.ofAnswer console.coloured exchange.outcome).filter (Output.isShown false) =
        exchanges.flatMap fun exchange => Output.ofAnswer console.coloured exchange.outcome := by
    intro exchanges
    simp only [List.filter_flatMap, Output.filter_ofAnswer]
  rw [answers, List.filter_append, hsaid]
  rfl

/-- A line of blanks is counted, but it does not get to the session. -/
theorem heard_cons_of_blank {line : List Char} (h : Text.isAllBlank line = true) (number : Nat)
    (texts : List (List Char)) :
    heard clock number (line :: texts) = heard clock (number + 1) texts := by
  have hany : (line.any fun c => !Text.isBlank c) = false := by
    rw [← Bool.not_eq_true, ← List.not_all_eq_any_not]
    simpa [Text.isAllBlank] using h
  rw [heard, List.zipIdx_cons, List.filter_cons_of_neg (by simp [hany])]
  rfl

/-- Any other line gets to the session. -/
theorem heard_cons {line : List Char} (h : Text.isAllBlank line = false) (number : Nat)
    (texts : List (List Char)) :
    heard clock number (line :: texts) =
      (clock number, line) :: heard clock (number + 1) texts := by
  have hany : (line.any fun c => !Text.isBlank c) = true := by
    rw [← List.not_all_eq_any_not]
    simpa [Text.isAllBlank] using h
  rw [heard, List.zipIdx_cons, List.filter_cons_of_pos (by simp [hany])]
  rfl

/-- A line that gets to the session is answered by it. -/
theorem enter_of_heard {line : List Char} (h : Text.isAllBlank line = false) (now : List Char)
    (console : Console) :
    console.enter now line =
      ({ console.remember line with session := (console.session.run now line).2 },
        Output.tracing line (console.session.exchange now line).outcome ++
          Output.ofAnswer console.coloured (console.session.exchange now line).outcome) := by
  rw [enter, if_neg (by simp [h])]
  rfl

/-- What a console makes of the lines that get to its session: the session answers them, and what it
answers is shown.  Lines for debugging come in between, and prompts on standard output, if there are
any. -/
structure Serves (console : Console) (typed : List (List Char × List Char)) (ending : Ending)
    (result : Console × List Output) : Prop where
  session : result.1.session = console.session.after typed
  answered : (console.answers typed ending).Sublist result.2
  complained : result.2.filterMap Output.error? =
    (console.answers typed ending).filterMap Output.error?
  unprompted : console.prompts = false →
    result.2.filter (Output.isShown false) = console.answers typed ending

/-- A prompt is no complaint. -/
theorem error?_prompt (console : Console) : console.prompt.filterMap Output.error? = [] := by
  rw [prompt]
  split <;> rfl

/-- Where no prompts are shown, there is none. -/
theorem prompt_of_no_prompts (h : console.prompts = false) : console.prompt = [] := by
  rw [prompt, h, if_neg Bool.false_ne_true]

/-- At the end only the ending is shown. -/
theorem serves_end (ending : Ending) (console : Console) :
    console.Serves [] ending (console, console.prompt ++ showEnding console.coloured ending) where
  session := rfl
  answered := List.sublist_append_right _ _
  complained := by
    rw [List.filterMap_append, error?_prompt]
    rfl
  unprompted h := by
    rw [prompt_of_no_prompts h]
    rfl

/-- One more line: its prompt and what is shown for it come in front. -/
theorem Serves.turn {next : Console} {typed' : List (List Char × List Char)} {shown : List Output}
    {result : Console × List Output} (h : next.Serves typed' ending result)
    (hprompts : next.prompts = console.prompts)
    (hsession : next.session.after typed' = console.session.after typed)
    (hanswers : console.answers typed ending =
      shown.filter (Output.isShown false) ++ next.answers typed' ending) :
    console.Serves typed ending (result.1, console.prompt ++ shown ++ result.2) where
  session := h.session.trans hsession
  answered := by
    rw [hanswers]
    exact (List.filter_sublist.trans (List.sublist_append_right _ shown)).append h.answered
  complained := by
    rw [hanswers, List.filterMap_append, List.filterMap_append, List.filterMap_append,
      error?_prompt, h.complained, Output.filterMap_filter_isShown (fun _ _ => rfl), List.nil_append]
  unprompted hnone := by
    rw [hanswers, prompt_of_no_prompts hnone, List.nil_append, List.filter_append,
      h.unprompted (hprompts.trans hnone)]

/-- The loop over what is read.  Each line up to the first ending has its turn: a line of blanks leaves
the session alone, and any other one is answered.  No line ends the loop. -/
theorem serves_runLines (clock : Nat → List Char) (isTerminal : Bool)
    (readings : List (Except Ending (List Char))) (console : Console) :
    console.Serves (heard clock console.number (LineReader.mk isTerminal readings).lines)
      (LineReader.mk isTerminal readings).ending (console.runLines clock readings) := by
  induction readings generalizing console with
  | nil => exact serves_end .endOfInput console
  | cons first others ih =>
    cases first with
    | error ending => exact serves_end ending console
    | ok line =>
      have hlines : (LineReader.mk isTerminal (.ok line :: others)).lines =
          line :: (LineReader.mk isTerminal others).lines := rfl
      have hending : (LineReader.mk isTerminal (.ok line :: others)).ending =
          (LineReader.mk isTerminal others).ending := rfl
      rw [hlines, hending, runLines_ok]
      by_cases hblank : Text.isAllBlank line = true
      · rw [heard_cons_of_blank hblank, enter_of_blank hblank]
        exact (ih (console.remember line)).turn rfl rfl rfl
      · rw [Bool.not_eq_true] at hblank
        rw [heard_cons hblank, enter_of_heard hblank]
        refine (ih _).turn rfl rfl ?_
        rw [List.filter_append, Output.filter_tracing, Output.filter_ofAnswer, answers,
          Session.exchanges, List.flatMap_cons, List.append_assoc]
        rfl

/-! ## Before and after -/

/-- Warnings about stored lines are log lines. -/
theorem standard?_warnBadlyEscaped (lines : List (List Char)) :
    (warnBadlyEscaped lines).filterMap Output.standard? = [] := by
  simp [warnBadlyEscaped, List.filterMap_flatMap, Output.standard?_logged]

/-- Nothing is shown on standard output before the first line. -/
theorem standard?_start (env : Environment × Option EnvironmentFault) (isTerminal : Bool)
    (arguments : Arguments) (unseeded : Generator) (stored : Option (List Char)) :
    (start env isTerminal arguments unseeded stored).2.filterMap Output.standard? = [] := by
  have hfault : (traceFault env.2).filterMap Output.standard? = [] := by
    cases env.2 with
    | none => rfl
    | some fault => exact Output.standard?_logged _ _
  have hdice : (chooseDice arguments unseeded).2.filterMap Output.standard? = [] := by
    rw [chooseDice]
    cases arguments.seed with
    | none => rfl
    | some seed => exact Output.standard?_logged _ _
  have hhistory : (loadHistory arguments.historyFile stored).2.filterMap Output.standard? = [] := by
    cases stored with
    | none => exact Output.standard?_logged _ _
    | some content => exact standard?_warnBadlyEscaped _
  rw [start, List.filterMap_append, List.filterMap_append, hfault, hdice, hhistory]
  rfl

/-- The dice of a session: those of the seed if there is one. -/
theorem chooseDice_fst (arguments : Arguments) (unseeded : Generator) :
    (chooseDice arguments unseeded).1 = (arguments.seed.map Generator.ofSeed).getD unseeded := by
  rw [chooseDice]
  cases arguments.seed with
  | none => rfl
  | some seed => rfl

end Console

namespace Host

/-- Nothing is shown on standard output after the last line, and the run ends well if the line history
can be stored. -/
theorem store_cases (host : Host) (path : List Char) (console : Console) (outputs : List Output) :
    (∃ closing, (host.store path console outputs).outputs = outputs ++ closing ∧
      closing.filterMap Output.standard? = []) ∧
    (host.folder.check path = .ok () → (host.store path console outputs).exitCode = 0) := by
  rw [store]
  cases console.saved (host.folder.get? path) with
  | none => exact ⟨⟨[], (List.append_nil _).symm, rfl⟩, fun _ => rfl⟩
  | some saved =>
    cases hcheck : host.folder.check path with
    | ok u => exact ⟨⟨_, rfl, Console.standard?_warnBadlyEscaped _⟩, fun _ => rfl⟩
    | error fault => exact ⟨⟨_, rfl, rfl⟩, nofun⟩

/-- A run opens its console on a session with the dice of the seed, or those of the host, that has room
for as many rolls as the arguments say. -/
theorem session_opened (host : Host) (isTerminal : Bool) (arguments : Arguments) :
    (host.opened isTerminal arguments).1.session =
      Session.start ((arguments.seed.map Generator.ofSeed).getD host.dice) arguments.capacity.toNat :=
  congrArg (Session.start · arguments.capacity.toNat)
    (Console.chooseDice_fst arguments host.dice)

/-- A run shows what comes of opening the console, of the loop and of storing the line history, with the
log line at the end between the last two.  It ends well if the line history can be stored. -/
theorem runWith_cases (host : Host) (arguments : Arguments) (reader : LineReader) :
    let shown := fun outputs : List Output => outputs.filter (Output.isShown arguments.debug)
    let opened := host.opened reader.isTerminal arguments
    let finished := opened.1.runLines host.clock reader.readings
    (∃ closing, (host.runWith arguments reader).outputs =
        shown opened.2 ++ shown finished.2 ++ [Console.closingLog finished.1.session] ++ closing ∧
      closing.filterMap Output.standard? = []) ∧
    (host.folder.check arguments.historyFile = .ok () →
      (host.runWith arguments reader).exitCode = 0) := by
  intro shown opened finished
  have hshown : shown (opened.2 ++ finished.2 ++ [Console.closingLog finished.1.session]) =
      shown opened.2 ++ shown finished.2 ++ [Console.closingLog finished.1.session] := by
    simp only [shown, List.filter_append]
    rfl
  rw [← hshown]
  exact host.store_cases arguments.historyFile finished.1 _

/-- A run whose arguments were understood is the conversation of one session, whatever the line reader
delivers.  Its dice are those of the seed if there is one, it has room for as many rolls as the
arguments say, and the lines that get to it are all that are delivered up to the first ending, but for
those of blanks.  Every reply makes one text on standard output, every diagnostic makes one text on
standard error, and neither ends the loop; what is shown for the ending comes last.  Where the lines come
from no terminal and the environment names none on which lines cannot be edited, nothing else is shown
between the first line and the last but log lines for debugging, and standard output holds the replies
and nothing else.  The log line at the end tells how many rolls the session remembers and how many it has
room for, and the run ends well if the line history can be stored. -/
theorem runOn_of_read {host : Host} {arguments : Arguments} (reader : LineReader)
    (h : Arguments.read host.fullEnvironment host.arguments = .ok arguments) :
    let env := host.fullEnvironment
    let dice := (arguments.seed.map Generator.ofSeed).getD host.dice
    let s := Session.start dice arguments.capacity.toNat
    let typed := Console.heard host.clock 1 reader.lines
    let said := s.exchanges typed
    let replies := (said.filterMap Exchange.reply?).map (Reply.shown env.forcesColours)
    let diagnostics := (said.filterMap Exchange.diagnostic?).map (Diagnostic.shown env.forcesColours)
    let ending := Console.showEnding env.forcesColours reader.ending
    let answers :=
      said.flatMap (fun exchange => Output.ofAnswer env.forcesColours exchange.outcome) ++ ending
    let result := host.runOn reader
    (∃ opening loop closing,
      result.outputs = opening ++ loop ++
        [.log .info ("Session over rolls=".toList ++ Decimal.digits (s.after typed).log.size ++
          " capacity=".toList ++ Decimal.digits arguments.capacity.toNat)] ++ closing ∧
      opening.filterMap Output.standard? = [] ∧ closing.filterMap Output.standard? = [] ∧
      answers.Sublist loop ∧
      (reader.isTerminal = false → Console.isPlainTerminal env = false →
        loop.filter (Output.isShown false) = answers) ∧
      loop.filterMap Output.error? = diagnostics ++ ending.filterMap Output.error?) ∧
    answers.filterMap Output.standard? = replies ∧
    (reader.isTerminal = false → Console.isPlainTerminal env = false →
      Output.standardOutput result.outputs = replies.flatten) ∧
    (host.folder.check arguments.historyFile = .ok () → result.exitCode = 0) := by
  intro env dice s typed said replies diagnostics ending answers result
  let opened := host.opened reader.isTerminal arguments
  let finished := opened.1.runLines host.clock reader.readings
  let shown := fun outputs : List Output => outputs.filter (Output.isShown arguments.debug)
  have hsession : opened.1.session = s := host.session_opened reader.isTerminal arguments
  have hserves : opened.1.Serves typed reader.ending finished :=
    Console.serves_runLines host.clock reader.isTerminal reader.readings opened.1
  have hanswers : opened.1.answers typed reader.ending = answers := by
    rw [Console.answers, hsession]
    rfl
  have hreplies : answers.filterMap Output.standard? = replies := by
    rw [← hanswers, Console.standard?_answers, hsession]
    rfl
  have hclosingLog : Console.closingLog finished.1.session =
      .log .info ("Session over rolls=".toList ++ Decimal.digits (s.after typed).log.size ++
        " capacity=".toList ++ Decimal.digits arguments.capacity.toNat) := by
    rw [Console.closingLog, hserves.session, hsession,
      Session.capacity_after dice arguments.capacity.toNat typed]
  obtain ⟨⟨closing, hwith, hclosing⟩, hcode⟩ := host.runWith_cases arguments reader
  have houtputs : result.outputs =
      shown opened.2 ++ shown finished.2 ++ [Console.closingLog finished.1.session] ++ closing :=
    (congrArg RunResult.outputs (runOn_of_ok h reader)).trans hwith
  rw [← runOn_of_ok h reader] at hcode
  rw [hclosingLog] at houtputs
  have hopening : (shown opened.2).filterMap Output.standard? = [] :=
    (Output.filterMap_filter_isShown (fun _ _ => rfl) _ _).trans (Console.standard?_start _ _ _ _ _)
  have hloop : reader.isTerminal = false → Console.isPlainTerminal env = false →
      (shown finished.2).filter (Output.isShown false) = answers := by
    intro hpiped hedited
    rw [← hanswers, Output.filter_isShown_filter_isShown]
    refine hserves.unprompted ?_
    show Console.showsPrompts env reader.isTerminal = false
    rw [Console.showsPrompts, hpiped, hedited, Bool.or_self]
  refine ⟨⟨shown opened.2, shown finished.2, closing, houtputs, hopening, hclosing, ?_, hloop, ?_⟩,
    hreplies, ?_, hcode⟩
  · rw [← hanswers, ← Output.filter_isShown_of_filter_eq Console.filter_answers arguments.debug]
    exact hserves.answered.filter _
  · rw [Output.filterMap_filter_isShown (fun _ _ => rfl), hserves.complained, Console.error?_answers,
      hsession]
    rfl
  · intro hpiped hedited
    have hstandard : (shown finished.2).filterMap Output.standard? = replies :=
      (Output.filterMap_filter_isShown (fun _ _ => rfl) false _).symm.trans
        (by rw [hloop hpiped hedited, hreplies])
    rw [Output.standardOutput, houtputs]
    simp only [List.filterMap_append, hopening, hclosing, hstandard, List.append_nil, List.nil_append]
    rw [List.filterMap_cons]
    exact congrArg List.flatten (List.append_nil _)

/-- A roll, a line of blanks, a line that is no notation, one that is no text, and one behind it, with
lines for debugging. -/
theorem runOn_of_read_five_readings :
    let host : Host :=
      { arguments := ["-d".toList, "--seed".toList, "42".toList], environment := ⟨[]⟩, folder := ⟨[]⟩,
        input := [], clock := fun _ => "09:15:00".toList, dice := .listed [3] }
    let reader : LineReader :=
      ⟨false, [.ok "d6".toList, .ok " ".toList, .ok "foo".toList, .error .notText, .ok "+5".toList]⟩
    let typed := [("09:15:00".toList, "d6".toList), ("09:15:00".toList, "foo".toList)]
    let said := (Session.start (.ofSeed 42) 50).exchanges typed
    Output.standardOutput (host.runOn reader).outputs =
        ((said.filterMap Exchange.reply?).map (Reply.shown false)).flatten ∧
      (host.runOn reader).exitCode = 0 := by
  intro host reader typed said
  have hread : Arguments.read host.fullEnvironment host.arguments =
      .ok ⟨true, 50, some 42, ".dicemark_history".toList⟩ := by rfl
  obtain ⟨-, -, houtput, hcode⟩ := runOn_of_read reader hread
  exact ⟨houtput rfl rfl, hcode rfl⟩

/-- Prompts on standard output: on a terminal that is not called dumb, but on which lines cannot be
edited either, and on any terminal that delivers the lines. -/
theorem standardOutput_runOn_prompts :
    let host : Host :=
      { arguments := [], environment := ⟨[("TERM".toList, "emacs".toList)]⟩, folder := ⟨[]⟩,
        input := [], clock := fun _ => "09:15:00".toList, dice := .listed [3] }
    let other : Host := { host with environment := ⟨[("TERM".toList, "xterm".toList)]⟩ }
    let typed := [("09:15:00".toList, "+5".toList)]
    let said := (Session.start host.dice 50).exchanges typed
    let replies := ((said.filterMap Exchange.reply?).map (Reply.shown false)).flatten
    Arguments.read host.fullEnvironment host.arguments =
        .ok ⟨false, 50, none, ".dicemark_history".toList⟩ ∧
      Arguments.read other.fullEnvironment other.arguments =
        .ok ⟨false, 50, none, ".dicemark_history".toList⟩ ∧
      Output.standardOutput (host.runOn ⟨false, [.ok "+5".toList]⟩).outputs ≠ replies ∧
      Output.standardOutput (other.runOn ⟨true, [.ok "+5".toList]⟩).outputs ≠ replies := by
  refine ⟨rfl, rfl, ?_, ?_⟩
  all_goals decide +kernel

end Host
end DiceRoller
