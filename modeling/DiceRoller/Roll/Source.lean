import DiceRoller.Error
import DiceRoller.Random.Generator

/-!
# Sources of throws

A source answers the question "throw a die with so many sides" and moves on to its next state.  Dice
are thrown with any source; a value that no side of the die shows ends the roll.

Main results:

- Theorem `rollDice_mem`: a finished roll shows sides of the die only.
- Theorem `length_rollDice`: a finished roll has as many throws as dice.
-/

namespace DiceRoller

/-- Something to throw dice with, whose state has type `σ`. -/
structure Source (σ : Type) where
  throwDie : UInt64 → σ → UInt64 × σ

namespace Source

/-- Throws that were agreed on beforehand, whatever the die; zero after the last one. -/
def scripted : Source (List UInt64) where
  throwDie
    | _, [] => (0, [])
    | _, value :: values => (value, values)

/-- Throws that a generator decides. -/
def random : Source Generator where
  throwDie := Generator.throwDie

/-- Throws so many dice of the same kind, one after the other.  The first value that is no side of
the die ends the roll there. -/
def rollDice {σ : Type} (source : Source σ) (sides : UInt64) :
    Nat → σ → Except Error (List UInt64) × σ
  | 0, state => (.ok [], state)
  | n + 1, state =>
    let thrown := source.throwDie sides state
    if 1 ≤ thrown.1 ∧ thrown.1 ≤ sides then
      let others := source.rollDice sides n thrown.2
      (others.1.map fun values => thrown.1 :: values, others.2)
    else (.error (.badThrow thrown.1 sides), thrown.2)

variable {σ : Type} {source : Source σ} {sides : UInt64}

@[simp]
theorem rollDice_zero (state : σ) : source.rollDice sides 0 state = (.ok [], state) :=
  rfl

/-- A finished roll begins with a side of the die and goes on with a finished roll of the others. -/
theorem rollDice_succ_eq_ok {n : Nat} {state : σ} {values : List UInt64}
    (h : (source.rollDice sides (n + 1) state).1 = .ok values) :
    ∃ value others, values = value :: others ∧ 1 ≤ value ∧ value ≤ sides ∧
      (source.rollDice sides n (source.throwDie sides state).2).1 = .ok others := by
  rw [rollDice] at h
  dsimp only at h
  split at h
  · rename_i hside
    cases hothers : (source.rollDice sides n (source.throwDie sides state).2).1 with
    | error e => simp [hothers, Except.map] at h
    | ok others =>
      simp only [hothers, Except.map, Except.ok.injEq] at h
      exact ⟨_, others, h.symm, hside.1, hside.2, rfl⟩
  · simp at h

/-- A finished roll has as many throws as dice. -/
theorem length_rollDice {n : Nat} {state : σ} {values : List UInt64}
    (h : (source.rollDice sides n state).1 = .ok values) : values.length = n := by
  induction n generalizing state values with
  | zero => simp_all
  | succ n ih =>
    obtain ⟨value, others, rfl, -, -, hothers⟩ := rollDice_succ_eq_ok h
    rw [List.length_cons, ih hothers]

/-- A finished roll shows sides of the die only. -/
theorem rollDice_mem {n : Nat} {state : σ} {values : List UInt64}
    (h : (source.rollDice sides n state).1 = .ok values) :
    ∀ value ∈ values, 1 ≤ value ∧ value ≤ sides := by
  induction n generalizing state values with
  | zero => simp_all
  | succ n ih =>
    obtain ⟨value, others, rfl, hlow, hhigh, hothers⟩ := rollDice_succ_eq_ok h
    intro v hv
    rcases List.mem_cons.1 hv with rfl | hv
    · exact ⟨hlow, hhigh⟩
    · exact ih hothers v hv

end Source
end DiceRoller
