import DiceRoller.Roll.Basic
import DiceRoller.Roll.Source

/-!
# Rolling a descriptor

The descriptor is checked, its dice are thrown, the keep rule picks the throws that count, and their
sum and the modifier are added with a check that 64 bits hold them.
-/

namespace DiceRoller
namespace Descriptor

/-- For every throw whether it counts; without a keep rule all do. -/
def keptFlags (d : Descriptor) (values : List UInt64) : List Bool :=
  match d.keep with
  | some keep => keep.select values
  | none => List.replicate values.length true

/-- The throws with their flags. -/
def outcomes (d : Descriptor) (values : List UInt64) : List Outcome :=
  List.zipWith Outcome.mk values (d.keptFlags values)

/-- A throw as a signed number, if it is one. -/
def signedThrow (value : UInt64) : Option Int64 :=
  if value.toNat ≤ Int64.maxValue.toInt.toNat then some (Int64.ofNat value.toNat) else none

/-- The sum of the throws that count, if it fits. -/
def keptSum (outcomes : List Outcome) : Option Int64 :=
  (outcomes.filter fun outcome => outcome.kept).foldlM
    (fun sum outcome => (signedThrow outcome.value).bind (addWithin sum)) 0

/-- The remark that a roll deserves. -/
def critical (d : Descriptor) (values : List UInt64) : Critical :=
  if d.isSingleD20 then
    match values with
    | [20] => .success
    | [1] => .fumble
    | _ => .none
  else .none

/-- The roll that comes of given throws. -/
def settle (d : Descriptor) (label : List Char) (values : List UInt64) : Except Error Roll :=
  match keptSum (d.outcomes values) with
  | none => .error .keptTotalOverflow
  | some keptTotal =>
    match addWithin keptTotal d.modifier with
    | none => .error .totalOverflow
    | some total => .ok ⟨d, label, d.outcomes values, keptTotal, total, d.critical values⟩

/-- Rolls a descriptor under a label. -/
def rollAs {σ : Type} (d : Descriptor) (label : List Char) (source : Source σ) (state : σ) :
    Except Error Roll × σ :=
  match d.validate with
  | .error fault => (.error (.descriptor fault), state)
  | .ok () =>
    let thrown := source.rollDice d.sides d.count.toNat state
    (thrown.1.bind (d.settle label), thrown.2)

/-- Rolls a descriptor under its own notation. -/
def roll {σ : Type} (d : Descriptor) (source : Source σ) (state : σ) : Except Error Roll × σ :=
  d.rollAs d.canonical source state

/-- There is an outcome per throw. -/
@[simp]
theorem length_outcomes (d : Descriptor) (values : List UInt64) :
    (d.outcomes values).length = values.length := by
  rw [outcomes, keptFlags]
  split <;> simp

/-- The outcomes show the throws. -/
theorem map_value_outcomes (d : Descriptor) (values : List UInt64) :
    (d.outcomes values).map Outcome.value = values := by
  have hflags : (d.keptFlags values).length = values.length := by
    rw [keptFlags]
    split <;> simp
  rw [outcomes]
  generalize d.keptFlags values = flags at hflags
  induction values generalizing flags with
  | nil => simp
  | cons value values ih =>
    cases flags with
    | nil => simp at hflags
    | cons flag flags => simpa using ih flags (by simpa using hflags)

end Descriptor
end DiceRoller
