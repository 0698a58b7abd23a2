import Mathlib.Data.List.Forall2
import DiceRoller.Proofs.Session.Conversation

/-!
# Room for rolls

How many rolls a session has room for shows in the list of past rolls, and nowhere else.  Two sessions
whose generators and tokens agree are alike, whatever they remember of past rolls: they say the same to
any line but one that asks for the list, and are alike behind every line.  So they bring the same rolls
to their logs, and the log with less room holds the newest entries of the other one.

Main results:

- Theorem `Alike.run`: sessions that are alike say the same, and stay alike.
- Theorem `Alike.exchanges`: what they say to any lines.
- Theorem `entries_eq_take_of_agree`: the logs of sessions that were told the same.
- Theorem `agree_of_capacity_le`: room limits what is remembered and nothing else.
-/

namespace DiceRoller

universe u

variable {τ : Type}

/-- What is left of events when their entries are seen from afar. -/
theorem Log.map_sinceCleared {ε : Type u} {α β : Type} (view : α → β) (clears : ε → Bool)
    (brings : ε → Option α) (events : List ε) :
    (sinceCleared clears brings events).map view =
      sinceCleared Prod.fst Prod.snd
        (events.map fun event => (clears event, (brings event).map view)) := by
  simp only [sinceCleared, ← List.map_reverse, List.takeWhile_map, List.filterMap_map,
    List.map_filterMap, Function.comp_def]

/-- An entry as it is seen by one who reads the time of day in a way of their own. -/
def LogEntry.seen (see : List Char → τ) (entry : LogEntry) : τ × Roll :=
  (see entry.time, entry.roll)

/-- One who reads the time as it is sees the whole entry. -/
theorem LogEntry.seen_injective : Function.Injective (LogEntry.seen id) := by
  rintro ⟨time, roll⟩ ⟨time', roll'⟩ h
  cases h
  rfl

namespace Exchange

/-- The same line at times that are read alike, with the same outcome unless the line asks for the list
of past rolls. -/
structure Agree (see : List Char → τ) (said said' : Exchange) : Prop where
  time : see said.time = see said'.time
  line : said.line = said'.line
  outcome : Command.parse said.line ≠ .ok .history → said.outcome = said'.outcome

/-- What an exchange does to a log, as it is seen. -/
def effect (see : List Char → τ) (exchange : Exchange) : Bool × Option (τ × Roll) :=
  (exchange.isClear, exchange.logged?.map (LogEntry.seen see))

variable {see : List Char → τ} {said said' : Exchange}

theorem command?_of_history (h : Command.parse said.line = .ok .history) :
    said.command? = some .history := by
  rw [command?, h]
  rfl

/-- Exchanges that agree do the same to a log. -/
theorem Agree.effect_eq (h : said.Agree see said') : said.effect see = said'.effect see := by
  have hcommand : said.command? = said'.command? := by rw [command?, command?, h.line]
  have hclear : said.isClear = said'.isClear := by rw [isClear, isClear, hcommand]
  have hlogged : said.logged?.map (LogEntry.seen see) = said'.logged?.map (LogEntry.seen see) := by
    by_cases hlist : Command.parse said.line = .ok .history
    · -- The outcomes may differ here, but neither of them is put into the log.
      have hsaid := command?_of_history hlist
      rw [logged?_of_not_asksForRoll hsaid rfl,
        logged?_of_not_asksForRoll (hcommand.symm.trans hsaid) rfl]
    · simp only [logged?, hcommand, h.outcome hlist, apply_ite (Option.map (LogEntry.seen see)),
        Option.map_map, Function.comp_def, LogEntry.seen, h.time]
  rw [effect, effect, hclear, hlogged]

end Exchange

namespace Session

/-! ## One line -/

/-- Two sessions that differ at most in the rolls that they remember. -/
structure Alike (s t : Session) : Prop where
  generator : s.generator = t.generator
  tokens : s.tokens = t.tokens

namespace Alike

variable {s t : Session} (now now' : List Char)

theorem answer (h : s.Alike t) (request : Except Diagnostic Request) :
    (s.answer now request).1 = (t.answer now' request).1 ∧
      (s.answer now request).2.Alike (t.answer now' request).2 := by
  cases request with
  | error diagnostic => exact ⟨rfl, h⟩
  | ok asked =>
    rcases hsolve : asked.query.solve .random s.generator with ⟨outcome, generator⟩
    have hsolve' : asked.query.solve .random t.generator = (outcome, generator) := by
      rw [← h.generator, hsolve]
    cases outcome with
    | error e =>
      simp only [Session.answer, answerQuery_of_error hsolve, answerQuery_of_error hsolve', true_and]
      exact ⟨rfl, h.tokens⟩
    | ok roll =>
      simp only [Session.answer, answerQuery_of_ok hsolve, answerQuery_of_ok hsolve', true_and]
      exact ⟨rfl, h.tokens⟩

theorem perform (h : s.Alike t) (command : Command) :
    (command ≠ .history → (s.perform now command).1 = (t.perform now' command).1) ∧
      (s.perform now command).2.Alike (t.perform now' command).2 := by
  cases hrequest : command.request? s.tokens with
  | some request =>
    have hrequest' : command.request? t.tokens = some request := by rw [← h.tokens, hrequest]
    rw [perform_of_request hrequest, perform_of_request hrequest']
    exact ⟨fun _ => (h.answer now now' request).1, (h.answer now now' request).2⟩
  | none =>
    cases command with
    | scan text =>
      refine ⟨fun _ => rfl, ?_⟩
      simp only [Session.perform]
      exact ⟨h.generator, rfl⟩
    | annotate text =>
      refine ⟨fun _ => rfl, ?_⟩
      simp only [Session.perform]
      exact ⟨h.generator, rfl⟩
    | history => exact ⟨fun hother => absurd rfl hother, h⟩
    | clear => exact ⟨fun _ => rfl, h.generator, h.tokens⟩
    | help => exact ⟨fun _ => rfl, h⟩
    | _ => cases hrequest

/-- Sessions that are alike say the same to a line, unless it asks for the list of past rolls, and they
stay alike. -/
theorem run (h : s.Alike t) (line : List Char) :
    (Command.parse line ≠ .ok .history → (s.run now line).1 = (t.run now' line).1) ∧
      (s.run now line).2.Alike (t.run now' line).2 := by
  cases hparse : Command.parse line with
  | error fault =>
    rw [run_of_bad_command hparse, run_of_bad_command hparse]
    exact ⟨fun _ => rfl, h⟩
  | ok command =>
    rw [run_of_parse hparse, run_of_parse hparse]
    obtain ⟨hsame, hbehind⟩ := h.perform now now' command
    exact ⟨fun hother => hsame fun hlist => hother (congrArg _ hlist), hbehind⟩

/-! ## Many lines -/

/-- What sessions that are alike say to the same lines, at times that are read alike. -/
theorem exchanges {see : List Char → τ} {typed typed' : List (List Char × List Char)}
    (h : s.Alike t) (htyped : typed.map (Prod.map see id) = typed'.map (Prod.map see id)) :
    List.Forall₂ (Exchange.Agree see) (s.exchanges typed) (t.exchanges typed') ∧
      (s.after typed).Alike (t.after typed') := by
  induction typed generalizing typed' s t with
  | nil =>
    cases typed' with
    | nil => exact ⟨.nil, h⟩
    | cons first' rest' => cases htyped
  | cons first rest ih =>
    cases typed' with
    | nil => cases htyped
    | cons first' rest' =>
      obtain ⟨time, line⟩ := first
      obtain ⟨time', line'⟩ := first'
      obtain ⟨hfirst, hrest⟩ := List.cons.inj htyped
      obtain ⟨htime, hline⟩ := Prod.mk.inj hfirst
      cases hline
      obtain ⟨hsame, hbehind⟩ := h.run time time' line
      obtain ⟨hothers, hend⟩ := ih hbehind hrest
      exact ⟨.cons ⟨htime, rfl, hsame⟩ hothers, hend⟩

end Alike

/-- Exchanges that agree bring the same rolls. -/
theorem map_rollsSaid_eq_of_agree {see : List Char → τ} {said said' : List Exchange}
    (h : List.Forall₂ (Exchange.Agree see) said said') :
    (rollsSaid said).map (LogEntry.seen see) = (rollsSaid said').map (LogEntry.seen see) := by
  have heffects : said.map (Exchange.effect see) = said'.map (Exchange.effect see) := by
    rw [← List.forall₂_eq_eq_eq, List.forall₂_map_left_iff, List.forall₂_map_right_iff]
    exact h.imp fun _ _ hagree => hagree.effect_eq
  rw [rollsSaid, rollsSaid]
  exact (Log.map_sinceCleared _ _ _ said).trans
    ((congrArg _ heffects).trans (Log.map_sinceCleared _ _ _ said').symm)

/-- Of two sessions that were told the same, the one with less room remembers the newest rolls of the
other one. -/
theorem entries_eq_take_of_agree {see : List Char → τ} {small large : Nat}
    {typed typed' : List (List Char × List Char)} (generator generator' : Generator)
    (h : small ≤ large)
    (hagree : List.Forall₂ (Exchange.Agree see) ((start generator small).exchanges typed)
      ((start generator' large).exchanges typed')) :
    let log := ((start generator small).after typed).log
    let log' := ((start generator' large).after typed').log
    log.entries.map (LogEntry.seen see) =
      (log'.entries.take (min small log'.size)).map (LogEntry.seen see) := by
  intro log log'
  have hentries : log.entries = (rollsSaid _).take small := entries_after generator small typed
  have hentries' : log'.entries = (rollsSaid _).take large := entries_after generator' large typed'
  rw [hentries, List.map_take, map_rollsSaid_eq_of_agree hagree, ← List.map_take, Log.size,
    hentries', List.take_take, List.length_take]
  generalize rollsSaid ((start generator' large).exchanges typed') = rolls
  -- Less room than the rolls need cuts them off; more room changes nothing.
  have hroom : rolls.take small = rolls.take (min (min small (min large rolls.length)) large) := by
    rw [List.take_eq_take_iff]
    omega
  rw [hroom]

/-- Room limits what is remembered and nothing else.  Two sessions that start with the same generator
are told the same lines, at any times of day, and the second one has at least as much room for rolls.
They say the same to every line but those that ask for the list of past rolls.  At every point their
generators and their tokens are equal, and the first log holds the newest of the rolls that the second
one holds, as many as it has room for; if the times are the same as well, then so are the entries. -/
theorem agree_of_capacity_le (generator : Generator) {small large : Nat} (h : small ≤ large)
    {typed typed' : List (List Char × List Char)}
    (hlines : typed.map Prod.snd = typed'.map Prod.snd) :
    let s := start generator small
    let t := start generator large
    List.Forall₂
      (fun said said' => said.line = said'.line ∧
        (Command.parse said.line ≠ .ok .history → said.outcome = said'.outcome))
      (s.exchanges typed) (t.exchanges typed') ∧
    ∀ n,
      let s := s.after (typed.take n)
      let t := t.after (typed'.take n)
      s.generator = t.generator ∧ s.tokens = t.tokens ∧
      s.log.entries.map LogEntry.roll =
        (t.log.entries.take (min small t.log.size)).map LogEntry.roll ∧
      (typed = typed' → s.log.entries = t.log.entries.take (min small t.log.size)) := by
  intro s t
  have halike : s.Alike t := ⟨rfl, rfl⟩
  -- One who does not read the times at all sees the same lines.
  have hall : typed.map (Prod.map (fun _ => ()) id) = typed'.map (Prod.map (fun _ => ()) id) := by
    have hunread := congrArg (List.map fun line => ((), line)) hlines
    rw [List.map_map, List.map_map] at hunread
    exact hunread
  have hsame : ∀ n, (typed.take n).map (Prod.map (fun _ => ()) id) =
      (typed'.take n).map (Prod.map (fun _ => ()) id) := by
    intro n
    rw [List.map_take, List.map_take, hall]
  refine ⟨(halike.exchanges hall).1.imp fun _ _ hagree => ⟨hagree.line, hagree.outcome⟩, ?_⟩
  intro n
  obtain ⟨hsaid, hbehind⟩ := halike.exchanges (hsame n)
  refine ⟨hbehind.generator, hbehind.tokens, ?_, ?_⟩
  · have hseen := entries_eq_take_of_agree generator generator h hsaid
    have hrolls := congrArg (List.map Prod.snd) hseen
    rw [List.map_map, List.map_map] at hrolls
    exact hrolls
  · rintro rfl
    have hsaid' : List.Forall₂ (Exchange.Agree id) (s.exchanges (typed.take n))
        (t.exchanges (typed.take n)) := (halike.exchanges rfl).1
    have hseen := entries_eq_take_of_agree generator generator h hsaid'
    exact LogEntry.seen_injective.list_map hseen

/-- Two rolls and room for one of them, or for both, in the morning and in the evening. -/
theorem agree_of_capacity_le_one_two :
    let lines := ["!scan a d20 and 1d6+1", "!pick 2", "!history", "d20"].map String.toList
    let typed := lines.map fun line => ("09:15:00".toList, line)
    let typed' := lines.map fun line => ("21:45:00".toList, line)
    let generator := Generator.listed [3, 11529215046068469760, 9]
    let s := (start generator 1).after typed
    let t := (start generator 2).after typed'
    s.generator = t.generator ∧ s.tokens = t.tokens ∧ s.log.size = 1 ∧ t.log.size = 2 ∧
      s.log.entries.map LogEntry.roll =
        (t.log.entries.take (min 1 t.log.size)).map LogEntry.roll := by
  intro lines typed typed' generator s t
  have hlines : typed.map Prod.snd = typed'.map Prod.snd := by decide
  obtain ⟨-, hpoints⟩ := agree_of_capacity_le generator (by decide : 1 ≤ 2) hlines
  obtain ⟨hgenerator, htokens, hrolls, -⟩ := hpoints 4
  refine ⟨hgenerator, htokens, ?_, ?_, hrolls⟩
  · decide +kernel
  · decide +kernel

end Session
end DiceRoller
