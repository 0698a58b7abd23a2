import DiceRoller.Notation.Parse
import DiceRoller.Roll.Log
import DiceRoller.Roll.Resolve

/-!
# Queries

A query is a request for a roll: a descriptor, and the label under which the result is shown, which
is the notation as typed or, for a descriptor from elsewhere, its own notation.
-/

namespace DiceRoller

/-- A request for a roll. -/
structure Query where
  label : List Char
  descriptor : Descriptor
  deriving DecidableEq, Repr

namespace Query

/-- A query for a notation as typed. -/
def parse (cs : List Char) : Except Error Query :=
  (Descriptor.parse cs).map fun descriptor => ⟨cs, descriptor⟩

/-- A query for a descriptor. -/
def ofDescriptor (descriptor : Descriptor) : Query :=
  ⟨descriptor.canonical, descriptor⟩

/-- Two twenty-sided dice of which the higher counts. -/
def advantage (modifier : Int64) : Query :=
  ofDescriptor (.dice 2 20 (some (.high 1)) modifier)

/-- Two twenty-sided dice of which the lower counts. -/
def disadvantage (modifier : Int64) : Query :=
  ofDescriptor (.dice 2 20 (some (.low 1)) modifier)

/-- Rolls what was asked for. -/
def solve {σ : Type} (query : Query) (source : Source σ) (state : σ) : Except Error Roll × σ :=
  query.descriptor.rollAs query.label source state

/-- Rolls what was asked for and puts a result into a log, as the entry that `entry` makes of it. -/
def solveInto {σ α : Type} (query : Query) (source : Source σ) (state : σ) (log : Log α)
    (entry : Roll → α) : Except Error Roll × σ × Log α :=
  match query.solve source state with
  | (.ok roll, state) => (.ok roll, state, log.record (entry roll))
  | (.error e, state) => (.error e, state, log)

@[simp]
theorem ofDescriptor_label (descriptor : Descriptor) :
    (ofDescriptor descriptor).label = descriptor.canonical :=
  rfl

@[simp]
theorem ofDescriptor_descriptor (descriptor : Descriptor) :
    (ofDescriptor descriptor).descriptor = descriptor :=
  rfl

end Query
end DiceRoller
