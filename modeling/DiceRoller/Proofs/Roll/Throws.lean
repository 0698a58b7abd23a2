import DiceRoller.Roll.Source

/-!
# How a source is used

A roll asks its source for throws of one kind of die, one after the other, and for no more of them
than it needs: the first throw that shows no side of the die is the last one.

Main results:

- Theorem `rollDice_of_sides`: a roll whose throws all show sides asks for all of them.
- Theorem `rollDice_of_first_bad`: a throw that shows no side ends the roll right there.
- Theorem `rollDice_recorded`: a record of the requests changes nothing about the roll.
-/

namespace DiceRoller

/-- A die of so many sides can show this value. -/
def IsSide (sides value : UInt64) : Prop :=
  1 ≤ value ∧ value ≤ sides

/-- Either all values show sides of the die, or there is a first one that does not. -/
theorem all_isSide_or_first_bad (sides : UInt64) (values : List UInt64) :
    (∀ value ∈ values, IsSide sides value) ∨
      ∃ good bad others, values = good ++ bad :: others ∧
        (∀ value ∈ good, IsSide sides value) ∧ ¬ IsSide sides bad := by
  induction values with
  | nil =>
    left
    intro value hvalue
    cases hvalue
  | cons first values ih =>
    by_cases hfirst : IsSide sides first
    · rcases ih with hall | ⟨good, bad, others, heq, hgood, hbad⟩
      · left
        exact List.forall_mem_cons.2 ⟨hfirst, hall⟩
      · right
        exact ⟨first :: good, bad, others, by rw [heq, List.cons_append],
          List.forall_mem_cons.2 ⟨hfirst, hgood⟩, hbad⟩
    · right
      exact ⟨[], first, values, rfl, by simp, hfirst⟩

namespace Source

variable {σ : Type}

/-- The values that a source gives to so many requests for the same kind of die. -/
def throws (source : Source σ) (sides : UInt64) : Nat → σ → List UInt64
  | 0, _ => []
  | n + 1, state =>
    (source.throwDie sides state).1 :: source.throws sides n (source.throwDie sides state).2

/-- The state of a source after so many requests for the same kind of die. -/
def after (source : Source σ) (sides : UInt64) : Nat → σ → σ
  | 0, state => state
  | n + 1, state => source.after sides n (source.throwDie sides state).2

/-- A source that keeps a record of the sides it was asked for, in order. -/
def recorded (source : Source σ) : Source (List UInt64 × σ) where
  throwDie sides state :=
    ((source.throwDie sides state.2).1, state.1 ++ [sides], (source.throwDie sides state.2).2)

variable {source : Source σ} {sides : UInt64}

@[simp]
theorem length_throws (n : Nat) (state : σ) : (source.throws sides n state).length = n := by
  induction n generalizing state with
  | zero => rfl
  | succ n ih => rw [throws, List.length_cons, ih]

/-! ## One throw -/

theorem rollDice_succ_of_side {n : Nat} {state : σ}
    (h : IsSide sides (source.throwDie sides state).1) :
    source.rollDice sides (n + 1) state =
      ((source.rollDice sides n (source.throwDie sides state).2).1.map fun values =>
          (source.throwDie sides state).1 :: values,
        (source.rollDice sides n (source.throwDie sides state).2).2) := by
  rw [rollDice]
  exact if_pos h

theorem rollDice_succ_of_not_side {n : Nat} {state : σ}
    (h : ¬ IsSide sides (source.throwDie sides state).1) :
    source.rollDice sides (n + 1) state =
      (.error (.badThrow (source.throwDie sides state).1 sides),
        (source.throwDie sides state).2) := by
  rw [rollDice]
  exact if_neg h

/-! ## All throws -/

/-- Throws that all show sides of the die make up the roll. -/
theorem rollDice_of_sides {n : Nat} {state : σ}
    (h : ∀ value ∈ source.throws sides n state, IsSide sides value) :
    source.rollDice sides n state =
      (.ok (source.throws sides n state), source.after sides n state) := by
  induction n generalizing state with
  | zero => rfl
  | succ n ih =>
    have hfirst : IsSide sides (source.throwDie sides state).1 := h _ List.mem_cons_self
    have hothers := ih fun value hvalue => h value (List.mem_cons_of_mem _ hvalue)
    rw [rollDice_succ_of_side hfirst, hothers]
    rfl

/-- A throw that shows no side of the die ends the roll right there. -/
theorem rollDice_of_first_bad {n : Nat} {state : σ} {good others : List UInt64} {bad : UInt64}
    (h : source.throws sides n state = good ++ bad :: others)
    (hgood : ∀ value ∈ good, IsSide sides value) (hbad : ¬ IsSide sides bad) :
    source.rollDice sides n state =
      (.error (.badThrow bad sides), source.after sides (good.length + 1) state) := by
  induction n generalizing state good with
  | zero =>
    have hlength := congrArg List.length h
    simp [throws] at hlength
  | succ n ih =>
    rw [throws] at h
    cases good with
    | nil =>
      have hfirst : (source.throwDie sides state).1 = bad := (List.cons.inj h).1
      rw [rollDice_succ_of_not_side (by rwa [hfirst]), hfirst]
      rfl
    | cons first good =>
      rw [List.cons_append] at h
      have hfirst : IsSide sides (source.throwDie sides state).1 := by
        rw [(List.cons.inj h).1]
        exact hgood first List.mem_cons_self
      have hothers := ih (List.cons.inj h).2
        fun value hvalue => hgood value (List.mem_cons_of_mem first hvalue)
      rw [rollDice_succ_of_side hfirst, hothers]
      rfl

/-! ## Records -/

@[simp]
theorem throws_recorded (n : Nat) (log : List UInt64) (state : σ) :
    source.recorded.throws sides n (log, state) = source.throws sides n state := by
  induction n generalizing log state with
  | zero => rfl
  | succ n ih =>
    rw [throws, throws, ← ih (log ++ [sides])]
    rfl

/-- A record grows by the sides of the die with each request. -/
@[simp]
theorem after_recorded (n : Nat) (log : List UInt64) (state : σ) :
    source.recorded.after sides n (log, state) =
      (log ++ List.replicate n sides, source.after sides n state) := by
  induction n generalizing log state with
  | zero => simp [after]
  | succ n ih =>
    have hlog : log ++ List.replicate (n + 1) sides = (log ++ [sides]) ++ List.replicate n sides := by
      rw [List.replicate_succ, List.append_assoc, List.singleton_append]
    rw [after, after, hlog, ← ih]
    rfl

/-- A record of the requests changes nothing about the roll. -/
theorem rollDice_recorded (n : Nat) (log : List UInt64) (state : σ) :
    ((source.recorded.rollDice sides n (log, state)).1,
      (source.recorded.rollDice sides n (log, state)).2.2) = source.rollDice sides n state := by
  induction n generalizing log state with
  | zero => rfl
  | succ n ih =>
    by_cases hside : IsSide sides (source.throwDie sides state).1
    · have hrecorded : IsSide sides (source.recorded.throwDie sides (log, state)).1 := hside
      rw [rollDice_succ_of_side hside, rollDice_succ_of_side hrecorded, ← ih (log ++ [sides])]
      rfl
    · have hrecorded : ¬ IsSide sides (source.recorded.throwDie sides (log, state)).1 := hside
      rw [rollDice_succ_of_not_side hside, rollDice_succ_of_not_side hrecorded]
      rfl

end Source
end DiceRoller
