/-!
# Bounded logs

A log keeps the latest entries, the newest first, up to a capacity that is fixed when it is made.  A
log of capacity zero keeps nothing.

Main results:

- Theorem `entries_record`: recording puts an entry in front and drops what exceeds the capacity.
- Theorem `entries_foldl_record`: after a run of records the log holds the latest of them.
-/

namespace DiceRoller

/-- The latest entries, newest first. -/
structure Log (α : Type) where
  capacity : Nat
  entries : List α
  bounded : entries.length ≤ capacity

namespace Log

variable {α : Type}

/-- The capacity of a log that is made without one. -/
def defaultCapacity : Nat := 50

/-- A log without entries. -/
def empty (capacity : Nat) : Log α :=
  ⟨capacity, [], Nat.zero_le capacity⟩

/-- Puts an entry in front; the oldest goes when there is no room. -/
def record (log : Log α) (entry : α) : Log α :=
  ⟨log.capacity, (entry :: log.entries).take log.capacity, List.length_take_le _ _⟩

/-- Forgets all entries. -/
def clear (log : Log α) : Log α :=
  empty log.capacity

/-- The number of entries. -/
def size (log : Log α) : Nat :=
  log.entries.length

/-- Whether there are no entries. -/
def isEmpty (log : Log α) : Bool :=
  log.entries.isEmpty

/-- The newest entry. -/
def latest? (log : Log α) : Option α :=
  log.entries.head?

/-- The entry at a place, the newest being at place zero. -/
def get? (log : Log α) (place : Nat) : Option α :=
  log.entries[place]?

@[simp]
theorem capacity_empty (capacity : Nat) : (empty capacity : Log α).capacity = capacity :=
  rfl

@[simp]
theorem entries_empty (capacity : Nat) : (empty capacity : Log α).entries = [] :=
  rfl

@[simp]
theorem capacity_record (log : Log α) (entry : α) : (log.record entry).capacity = log.capacity :=
  rfl

/-- Recording puts an entry in front and drops what exceeds the capacity. -/
@[simp]
theorem entries_record (log : Log α) (entry : α) :
    (log.record entry).entries = (entry :: log.entries).take log.capacity :=
  rfl

@[simp]
theorem capacity_clear (log : Log α) : log.clear.capacity = log.capacity :=
  rfl

@[simp]
theorem entries_clear (log : Log α) : log.clear.entries = [] :=
  rfl

/-- After a run of records the log holds the latest of them. -/
theorem entries_foldl_record (log : Log α) (run : List α) :
    (run.foldl record log).entries = (run.reverse ++ log.entries).take log.capacity := by
  induction run generalizing log with
  | nil => simp [List.take_of_length_le log.bounded]
  | cons entry run ih =>
    rw [List.foldl_cons, ih, entries_record, capacity_record]
    simp only [List.reverse_cons, List.append_assoc, List.singleton_append, List.take_append,
      List.take_take, Nat.min_eq_left (Nat.sub_le _ _)]

end Log
end DiceRoller
