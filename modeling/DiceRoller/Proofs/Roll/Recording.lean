import Mathlib.Data.List.Induction
import DiceRoller.Roll.Query

/-!
# What a log holds

Whatever happens to a log, it holds the latest of the results since it was last cleared, as many as it
has room for.  Results are recorded as they are, or come of a query that is solved for the log; a query
that fails leaves the log alone.

Main results:

- Theorem `entries_record_eq`: a full log gives up its oldest entry for a new one.
- Theorem `entries_update`: one event, seen from the results so far.
- Theorem `entries_foldl_update`: a run of events.
- Theorem `held_after`: what a log holds behind any steps, and what a further query does to it.
-/

namespace DiceRoller
namespace Log

universe u

variable {α : Type} {ε : Type u}

/-- A full log gives up its oldest entry for a new one; a log without room keeps nothing. -/
theorem entries_record_eq (log : Log α) (entry : α) :
    (log.record entry).entries =
      if log.capacity = 0 then log.entries
      else entry :: if log.size = log.capacity then log.entries.dropLast else log.entries := by
  have hbounded := log.bounded
  rw [entries_record, size]
  cases hcapacity : log.capacity with
  | zero =>
    rw [hcapacity, Nat.le_zero, List.length_eq_zero_iff] at hbounded
    rw [if_pos rfl, List.take_zero, hbounded]
  | succ room =>
    rw [if_neg (Nat.succ_ne_zero room), List.take_succ_cons]
    by_cases hfull : log.entries.length = room + 1
    · rw [if_pos hfull, List.dropLast_eq_take, hfull, Nat.add_sub_cancel]
    · rw [if_neg hfull, List.take_of_length_le (by omega)]

/-! ## Events -/

/-- A log behind an event that clears it, brings an entry, or does neither. -/
def update (clears : Bool) (brings : Option α) (log : Log α) : Log α :=
  if clears then log.clear
  else
    match brings with
    | some entry => log.record entry
    | none => log

/-- The entries that events brought since the last one that clears, newest first. -/
def sinceCleared (clears : ε → Bool) (brings : ε → Option α) (events : List ε) : List α :=
  (events.reverse.takeWhile fun event => !clears event).filterMap brings

@[simp]
theorem capacity_update (clears : Bool) (brings : Option α) (log : Log α) :
    (log.update clears brings).capacity = log.capacity := by
  cases clears with
  | true => rfl
  | false =>
    cases brings with
    | none => rfl
    | some entry => rfl

theorem sinceCleared_append_singleton (clears : ε → Bool) (brings : ε → Option α)
    (events : List ε) (event : ε) :
    sinceCleared clears brings (events ++ [event]) =
      if clears event then [] else (brings event).toList ++ sinceCleared clears brings events := by
  rw [sinceCleared, List.reverse_append, List.reverse_singleton, List.singleton_append,
    List.takeWhile_cons]
  cases hclear : clears event with
  | true => rfl
  | false =>
    rw [Bool.not_false, if_pos rfl, List.filterMap_cons]
    cases brings event with
    | none => rfl
    | some entry => rfl

/-- A log that holds the latest of some results still does so behind one more event. -/
theorem entries_update {log : Log α} {results : List α} (clears : Bool) (brings : Option α)
    (h : log.entries = results.take log.capacity) :
    (log.update clears brings).entries =
      (if clears then [] else brings.toList ++ results).take log.capacity := by
  cases clears with
  | true => exact List.take_nil.symm
  | false =>
    cases brings with
    | none => exact h
    | some entry =>
      show (log.record entry).entries = (entry :: results).take log.capacity
      rw [entries_record, h]
      cases log.capacity with
      | zero => rw [List.take_zero, List.take_zero]
      | succ room => rw [List.take_succ_cons, List.take_succ_cons, List.take_take,
          Nat.min_eq_left (Nat.le_succ room)]

theorem capacity_foldl_update (clears : ε → Bool) (brings : ε → Option α) (capacity : Nat)
    (events : List ε) :
    (events.foldl (fun log event => log.update (clears event) (brings event))
      (empty capacity)).capacity = capacity := by
  induction events using List.reverseRecOn with
  | nil => rfl
  | append_singleton events event ih =>
    rw [List.foldl_append, List.foldl_cons, List.foldl_nil, capacity_update, ih]

/-- Behind a run of events a log holds the latest entries since it was last cleared. -/
theorem entries_foldl_update (clears : ε → Bool) (brings : ε → Option α) (capacity : Nat)
    (events : List ε) :
    (events.foldl (fun log event => log.update (clears event) (brings event))
      (empty capacity)).entries = (sinceCleared clears brings events).take capacity := by
  induction events using List.reverseRecOn with
  | nil => exact List.take_nil.symm
  | append_singleton events event ih =>
    have hcapacity := capacity_foldl_update clears brings capacity events
    rw [List.foldl_append, List.foldl_cons, List.foldl_nil, sinceCleared_append_singleton]
    rw [entries_update (clears event) (brings event) (by rw [ih, hcapacity]), hcapacity]

/-! ## Steps -/

/-- Something that is done to a log: a result is recorded, a query is solved and its roll recorded as
the entry made of it, or the log is cleared. -/
inductive Step (α : Type) : Type 1 where
  | record (entry : α)
  | solve {σ : Type} (query : Query) (source : Source σ) (state : σ) (entry : Roll → α)
  | clear

namespace Step

/-- The log behind a step. -/
def apply (log : Log α) : Step α → Log α
  | record entry => log.record entry
  | solve query source state entry => (query.solveInto source state log entry).2.2
  | clear => log.clear

/-- Whether a step clears the log. -/
def isClear : Step α → Bool
  | clear => true
  | _ => false

/-- The result of a step; a query that fails has none. -/
def result? : Step α → Option α
  | record entry => some entry
  | solve query source state entry => (query.solve source state).1.toOption.map entry
  | clear => none

end Step

theorem solveInto_of_error {σ : Type} {query : Query} {source : Source σ} {state : σ} {e : Error}
    (h : (query.solve source state).1 = .error e) (log : Log α) (entry : Roll → α) :
    query.solveInto source state log entry = (.error e, (query.solve source state).2, log) := by
  rcases hsolve : query.solve source state with ⟨outcome, state'⟩
  rw [hsolve] at h
  cases h
  rw [Query.solveInto, hsolve]

theorem solveInto_of_ok {σ : Type} {query : Query} {source : Source σ} {state : σ} {roll : Roll}
    (h : (query.solve source state).1 = .ok roll) (log : Log α) (entry : Roll → α) :
    query.solveInto source state log entry =
      (.ok roll, (query.solve source state).2, log.record (entry roll)) := by
  rcases hsolve : query.solve source state with ⟨outcome, state'⟩
  rw [hsolve] at h
  cases h
  rw [Query.solveInto, hsolve]

/-- A step clears the log, brings its result, or does neither. -/
theorem apply_eq_update (log : Log α) (step : Step α) :
    step.apply log = log.update step.isClear step.result? := by
  cases step with
  | record entry => rfl
  | clear => rfl
  | solve query source state entry =>
    rw [Step.apply, Step.result?]
    cases hsolve : (query.solve source state).1 with
    | error e =>
      rw [solveInto_of_error hsolve]
      rfl
    | ok roll =>
      rw [solveInto_of_ok hsolve]
      rfl

/-- The log behind some steps, the first of them first. -/
def after (steps : List (Step α)) (log : Log α) : Log α :=
  steps.foldl Step.apply log

theorem after_eq_foldl_update (steps : List (Step α)) (log : Log α) :
    log.after steps =
      steps.foldl (fun log step => log.update step.isClear step.result?) log := by
  have happly : Step.apply = fun (log : Log α) step => log.update step.isClear step.result? := by
    funext log step
    exact apply_eq_update log step
  rw [after, happly]

/-- What a log holds behind any steps: the latest of the results since it was last cleared, newest
first, as many as it has room for.  Its size, its newest entry and the entries at its places are those
of this list, and a new entry takes the place of the oldest one when there is no room.  A query that is
solved for the log returns the very roll that it puts into the log, and one that fails leaves the log
as it was. -/
theorem held_after (capacity : Nat) (steps : List (Step α)) :
    let log := (empty capacity).after steps
    let results := sinceCleared Step.isClear Step.result? steps
    log.capacity = capacity ∧
    log.entries = results.take capacity ∧
    log.size = min results.length capacity ∧
    (log.isEmpty = true ↔ log.size = 0) ∧
    log.latest? = log.entries.head? ∧
    (∀ place, log.get? place = log.entries[place]? ∧
      log.get? place = if place < capacity then results[place]? else none) ∧
    (∀ entry, (log.record entry).entries =
      if capacity = 0 then []
      else entry :: if log.size = capacity then log.entries.dropLast else log.entries) ∧
    ∀ {σ : Type} (query : Query) (source : Source σ) (state : σ) (entry : Roll → α),
      (∀ e, (query.solve source state).1 = .error e →
        query.solveInto source state log entry = (.error e, (query.solve source state).2, log)) ∧
      ∀ roll, (query.solve source state).1 = .ok roll →
        query.solveInto source state log entry =
            (.ok roll, (query.solve source state).2, log.record (entry roll)) ∧
          (log.record (entry roll)).entries = (entry roll :: results).take capacity := by
  intro log results
  have hcapacity : log.capacity = capacity := by
    rw [← capacity_foldl_update Step.isClear Step.result? capacity steps, ← after_eq_foldl_update]
  have hentries : log.entries = results.take capacity := by
    rw [← entries_foldl_update Step.isClear Step.result? capacity steps, ← after_eq_foldl_update]
  refine ⟨hcapacity, hentries, ?_, ?_, rfl, ?_, ?_, ?_⟩
  · rw [size, hentries, List.length_take, Nat.min_comm]
  · rw [isEmpty, List.isEmpty_iff, size, List.length_eq_zero_iff]
  · intro place
    refine ⟨rfl, ?_⟩
    rw [get?, hentries, List.getElem?_take]
  · intro entry
    rw [entries_record_eq, hcapacity]
    by_cases hzero : capacity = 0
    · rw [if_pos hzero, if_pos hzero, hentries, hzero, List.take_zero]
    · rw [if_neg hzero, if_neg hzero]
  · intro σ query source state entry
    refine ⟨fun e he => solveInto_of_error he log entry, ?_⟩
    intro roll hroll
    refine ⟨solveInto_of_ok hroll log entry, ?_⟩
    have hlatest : log.entries = results.take log.capacity := by rw [hentries, hcapacity]
    have hrecorded := entries_update false (some (entry roll)) hlatest
    rw [hcapacity] at hrecorded
    exact hrecorded

end Log
end DiceRoller
