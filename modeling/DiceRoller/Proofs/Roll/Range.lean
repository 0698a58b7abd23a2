import Mathlib.Algebra.Group.Action.Defs
import DiceRoller.Proofs.Dice.Bounds
import DiceRoller.Proofs.Dice.Selection
import DiceRoller.Proofs.Outcome
import DiceRoller.Proofs.Roll.Resolution

/-!
# The range of a roll

A descriptor announces its lowest and its highest total.  Both are sums in 64 bits that stop at their
limits, while a roll whose total does not fit has no result.  So every result lies between the two, and
dice that all fall on one, or all on their highest side, reach them wherever these totals fit.

Main results:

- Theorem `length_kept_outcomes`: how many throws count.
- Theorem `keptValue_bounds`: what the throws that count come to, from bounds on each throw.
- Theorem `rollAs_range`: the range of a roll, and that it is reached.
-/

namespace DiceRoller

namespace Descriptor

variable {d : Descriptor}

/-! ## The throws that count -/

/-- As many throws count as the descriptor says, when all its dice are thrown. -/
theorem length_kept_outcomes {values : List UInt64} (h : values.length = d.count.toNat) :
    ((d.outcomes values).filter fun outcome => outcome.kept).length = d.keptCount.toNat := by
  have hflags : ((d.outcomes values).filter fun outcome => outcome.kept).length =
      (d.keptFlags values).count true := by
    rw [← map_kept_outcomes, List.count, List.countP_map, List.countP_eq_length_filter]
    simp [Function.comp_def]
  rw [hflags, keptFlags, keptCount]
  cases d.keep with
  | none => simp [h]
  | some keep => simp [Keep.count_true_select, UInt64.toNat_min, h]

/-- The throws that count come to a sum between so many times the least throw and so many times the
greatest. -/
theorem keptValue_bounds {values : List UInt64} {low high : Nat}
    (hlength : values.length = d.count.toNat)
    (hvalues : ∀ value ∈ values, low ≤ value.toNat ∧ value.toNat ≤ high) :
    d.keptCount.toNat * low ≤ keptValue (d.outcomes values) ∧
      keptValue (d.outcomes values) ≤ d.keptCount.toNat * high := by
  have hbound : ∀ n ∈ ((d.outcomes values).filter fun outcome => outcome.kept).map
      fun outcome => outcome.value.toNat, low ≤ n ∧ n ≤ high := by
    intro n hn
    obtain ⟨outcome, houtcome, rfl⟩ := List.mem_map.1 hn
    apply hvalues
    rw [← map_value_outcomes d values]
    exact List.mem_map_of_mem (List.mem_of_mem_filter houtcome)
  have hlow := List.card_nsmul_le_sum _ low fun n hn => (hbound n hn).1
  have hhigh := List.sum_le_card_nsmul _ high fun n hn => (hbound n hn).2
  rw [List.length_map, length_kept_outcomes hlength, smul_eq_mul] at hlow hhigh
  exact ⟨hlow, hhigh⟩

/-! ## The announced range -/

section Announced

variable (hvalid : d.validate = .ok ())

include hvalid

theorem keptCount_le_of_valid : d.keptCount.toNat ≤ 5000 := by
  have hcount := (validate_eq_ok_iff.1 hvalid).1
  exact UInt64.le_iff_toNat_le.1 (UInt64.le_trans d.kept_le_count hcount)

theorem keptCount_mul_sides_le_of_valid : d.keptCount.toNat * d.sides.toNat ≤ 5000 * 5000 := by
  have hsides := (validate_eq_ok_iff.1 hvalid).2.1
  exact Nat.mul_le_mul (keptCount_le_of_valid hvalid) (UInt64.le_iff_toNat_le.1 hsides)

/-- The lowest total of a descriptor that can be rolled is all ones and the modifier, as far as 64 bits
go. -/
theorem toInt_min :
    d.min.toInt = Min.min (d.keptCount.toNat + d.modifier.toInt) Int64.maxValue.toInt := by
  have hkept := keptCount_le_of_valid hvalid
  have hlow := d.modifier.minValue_le_toInt
  rw [min_eq, toInt_saturate_add, clamp]
  simp only [Int64.toInt_minValue, Int64.toInt_maxValue] at hlow ⊢
  omega

/-- The highest total is all sides and the modifier, as far as 64 bits go. -/
theorem toInt_max :
    d.max.toInt =
      Min.min (d.keptCount.toNat * d.sides.toNat + d.modifier.toInt) Int64.maxValue.toInt := by
  have hkept := keptCount_mul_sides_le_of_valid hvalid
  have hlow := d.modifier.minValue_le_toInt
  rw [max_eq, ← Int.natCast_mul, toInt_saturate_add, clamp]
  simp only [Int64.toInt_minValue, Int64.toInt_maxValue] at hlow ⊢
  omega

end Announced

/-! ## Rolls -/

section Rolls

variable {σ : Type} {source : Source σ} {state : σ} {label : List Char}

/-- A result comes of a descriptor that can be rolled, from a throw for each of its dice that shows one
of the sides. -/
theorem exists_values_of_rollAs {roll : Roll} (h : (d.rollAs label source state).1 = .ok roll) :
    d.validate = .ok () ∧ ∃ values, values.length = d.count.toNat ∧
      (∀ value ∈ values, IsSide d.sides value) ∧ d.settle label values = .ok roll := by
  cases hvalid : d.validate with
  | error fault =>
    rw [rollAs_of_error hvalid] at h
    cases h
  | ok u =>
    rw [rollAs_of_ok hvalid] at h
    obtain ⟨values, hvalues, hsettle⟩ := bind_eq_ok_iff.1 h
    exact ⟨rfl, values, Source.length_rollDice hvalues, Source.rollDice_mem hvalues, hsettle⟩

/-- The result of given throws shows all of them, and has the exact total. -/
theorem settle_eq_ok {values : List UInt64} {roll : Roll} (hlength : values.length ≤ 5000)
    (hvalues : ∀ value ∈ values, value.toNat ≤ 5000) (h : d.settle label values = .ok roll) :
    roll.outcomes = d.outcomes values ∧
      roll.total.toInt = keptValue (d.outcomes values) + d.modifier.toInt := by
  obtain ⟨sum, hsum, hvalue⟩ := exists_keptSum (d := d) hlength hvalues
  rw [settle, hsum] at h
  cases htotal : addWithin sum d.modifier with
  | none => simp [htotal] at h
  | some total =>
    simp only [htotal, Except.ok.injEq] at h
    subst h
    exact ⟨rfl, by rw [addWithin_eq_some_iff.1 htotal, hvalue]⟩

/-- Throws that all show sides are all that a roll goes by. -/
theorem rollAs_eq_settle (label : List Char) (hvalid : d.validate = .ok ())
    (hsides : ∀ value ∈ source.throws d.sides d.count.toNat state, IsSide d.sides value) :
    (d.rollAs label source state).1 =
      d.settle label (source.throws d.sides d.count.toNat state) := by
  rw [rollAs_of_ok hvalid, Source.rollDice_of_sides hsides]
  rfl

/-- Throws that all show sides, of a total that fits, make a roll of that total. -/
theorem exists_roll_of_throws (label : List Char) (hvalid : d.validate = .ok ())
    (hsides : ∀ value ∈ source.throws d.sides d.count.toNat state, IsSide d.sides value)
    (hfits : keptValue (d.outcomes (source.throws d.sides d.count.toNat state)) +
      d.modifier.toInt ≤ Int64.maxValue.toInt) :
    ∃ roll, (d.rollAs label source state).1 = .ok roll ∧
      roll.total.toInt =
        keptValue (d.outcomes (source.throws d.sides d.count.toNat state)) + d.modifier.toInt := by
  have hlength : (source.throws d.sides d.count.toNat state).length ≤ 5000 :=
    length_throws_le hvalid
  have hvalues : ∀ value ∈ source.throws d.sides d.count.toNat state, value.toNat ≤ 5000 :=
    fun value hvalue => toNat_le_of_isSide hvalid (hsides value hvalue)
  obtain ⟨roll, hroll, -⟩ : ∃ roll, d.settle label _ = .ok roll ∧ d.IsExact label _ roll :=
    settle_of_le hlength hvalues hfits
  exact ⟨roll, (rollAs_eq_settle label hvalid hsides).trans hroll,
    (settle_eq_ok hlength hvalues hroll).2⟩

/-- A result lies in the announced range. -/
theorem total_mem_range {values : List UInt64} {roll : Roll} (hvalid : d.validate = .ok ())
    (hlength : values.length = d.count.toNat) (hsides : ∀ value ∈ values, IsSide d.sides value)
    (htotal : roll.total.toInt = keptValue (d.outcomes values) + d.modifier.toInt) :
    d.min ≤ roll.total ∧ roll.total ≤ d.max := by
  have hvalues : ∀ value ∈ values, 1 ≤ value.toNat ∧ value.toNat ≤ d.sides.toNat := by
    intro value hvalue
    exact ⟨UInt64.le_iff_toNat_le.1 (hsides value hvalue).1,
      UInt64.le_iff_toNat_le.1 (hsides value hvalue).2⟩
  obtain ⟨hlow, hhigh⟩ := keptValue_bounds hlength hvalues
  have hfits := roll.total.toInt_le
  rw [htotal] at hfits
  rw [Int64.le_iff_toInt_le, Int64.le_iff_toInt_le, toInt_min hvalid, toInt_max hvalid, htotal]
  push_cast [← Int.ofNat_le] at hlow hhigh
  omega

/-- Dice that are thrown have sides. -/
theorem one_le_sides_of_mem {value : UInt64} (hvalid : d.validate = .ok ())
    (h : value ∈ source.throws d.sides d.count.toNat state) : 1 ≤ d.sides := by
  have hpos := List.length_pos_of_mem h
  rw [Source.length_throws] at hpos
  exact (sides_of_request hvalid (Nat.le_refl _)
    (List.mem_replicate.2 ⟨Nat.pos_iff_ne_zero.1 hpos, rfl⟩)).2.1

/-- Dice that all fall on one value come to that value for each die that counts, and the modifier. -/
theorem exists_roll_of_constant {value : UInt64} (label : List Char) (hvalid : d.validate = .ok ())
    (hthrows : ∀ thrown ∈ source.throws d.sides d.count.toNat state, thrown = value)
    (hside : 1 ≤ d.sides → IsSide d.sides value)
    (hfits : d.keptCount.toNat * value.toNat + d.modifier.toInt ≤ Int64.maxValue.toInt) :
    ∃ roll, (d.rollAs label source state).1 = .ok roll ∧
      roll.total.toInt = d.keptCount.toNat * value.toNat + d.modifier.toInt := by
  have hsides : ∀ thrown ∈ source.throws d.sides d.count.toNat state, IsSide d.sides thrown := by
    intro thrown hthrown
    rw [hthrows thrown hthrown]
    exact hside (one_le_sides_of_mem hvalid hthrown)
  have hconstant : ∀ thrown ∈ source.throws d.sides d.count.toNat state,
      value.toNat ≤ thrown.toNat ∧ thrown.toNat ≤ value.toNat := by
    intro thrown hthrown
    rw [hthrows thrown hthrown]
    exact ⟨Nat.le_refl _, Nat.le_refl _⟩
  obtain ⟨hlow, hhigh⟩ := keptValue_bounds (Source.length_throws d.count.toNat state) hconstant
  have hroll := exists_roll_of_throws label hvalid hsides
  rw [Nat.le_antisymm hhigh hlow] at hroll
  push_cast at hroll
  exact hroll hfits

end Rolls

/-- The range of a roll.  Whatever the source throws, the total of a result lies in the announced range,
every throw shows a side, there is a throw for each die, and as many of them count as the descriptor
says.  A source that throws ones reaches the lowest total, and one that throws the highest sides reaches
the highest total, each as far as 64 bits hold it. -/
theorem rollAs_range {σ : Type} (d : Descriptor) (label : List Char) (source : Source σ)
    (state : σ) :
    let run := d.rollAs label source state
    let throws := source.throws d.sides d.count.toNat state
    (∀ roll, run.1 = .ok roll →
      (d.min ≤ roll.total ∧ roll.total ≤ d.max) ∧
      (∀ outcome ∈ roll.outcomes, 1 ≤ outcome.value ∧ outcome.value ≤ d.sides) ∧
      roll.outcomes.length = d.count.toNat ∧
      roll.kept.length = d.keptCount.toNat) ∧
    (d.validate = .ok () ∧ (∀ value ∈ throws, value = 1) ∧
        d.keptCount.toNat + d.modifier.toInt ≤ Int64.maxValue.toInt →
      ∃ roll, run.1 = .ok roll ∧ roll.total = d.min) ∧
    (d.validate = .ok () ∧ (∀ value ∈ throws, value = d.sides) ∧
        d.keptCount.toNat * d.sides.toNat + d.modifier.toInt ≤ Int64.maxValue.toInt →
      ∃ roll, run.1 = .ok roll ∧ roll.total = d.max) := by
  intro run throws
  have hlength : throws.length = d.count.toNat := Source.length_throws _ _
  refine ⟨?_, ?_, ?_⟩
  · intro roll hroll
    obtain ⟨hvalid, values, hcount, hsides, hsettle⟩ := exists_values_of_rollAs hroll
    have hfew : values.length ≤ 5000 := by
      rw [hcount]
      exact UInt64.le_iff_toNat_le.1 (validate_eq_ok_iff.1 hvalid).1
    obtain ⟨houtcomes, htotal⟩ := settle_eq_ok hfew
      (fun value hvalue => toNat_le_of_isSide hvalid (hsides value hvalue)) hsettle
    refine ⟨total_mem_range hvalid hcount hsides htotal, ?_, ?_, ?_⟩
    · intro outcome houtcome
      apply hsides
      rw [← map_value_outcomes d values, ← houtcomes]
      exact List.mem_map_of_mem houtcome
    · rw [houtcomes, length_outcomes, hcount]
    · rw [Roll.kept, List.length_map, houtcomes, length_kept_outcomes hcount]
  · rintro ⟨hvalid, hones, hfits⟩
    obtain ⟨roll, hroll, htotal⟩ := exists_roll_of_constant label hvalid hones
      (fun hsides => ⟨UInt64.le_refl 1, hsides⟩) (by simpa using hfits)
    refine ⟨roll, hroll, ?_⟩
    rw [← Int64.toInt_inj, toInt_min hvalid, htotal]
    simp only [UInt64.toNat_one]
    omega
  · rintro ⟨hvalid, htop, hfits⟩
    obtain ⟨roll, hroll, htotal⟩ := exists_roll_of_constant label hvalid htop
      (fun hsides => ⟨hsides, UInt64.le_refl d.sides⟩) hfits
    refine ⟨roll, hroll, ?_⟩
    rw [← Int64.toInt_inj, toInt_max hvalid, htotal]
    omega

/-- Four dice of which the best three count: all ones, and all sixes. -/
theorem rollAs_range_best_three :
    let d := dice 4 6 (some (.high 3)) 2
    (∃ roll, (d.rollAs "4d6kh3 + 2".toList .scripted [1, 1, 1, 1]).1 = .ok roll ∧
      roll.total = d.min ∧ roll.kept.length = d.keptCount.toNat) ∧
    (∃ roll, (d.rollAs "4d6kh3 + 2".toList .scripted [6, 6, 6, 6]).1 = .ok roll ∧
      roll.total = d.max ∧ roll.kept.length = d.keptCount.toNat) ∧
    d.min = 5 ∧ d.max = 20 ∧ d.keptCount = 3 := by
  intro d
  have hvalid : d.validate = .ok () := by decide
  have hthrows : ∀ value : UInt64, Source.scripted.throws d.sides d.count.toNat
      [value, value, value, value] = List.replicate 4 value := fun _ => rfl
  have hones := rollAs_range d "4d6kh3 + 2".toList .scripted [1, 1, 1, 1]
  have hsixes := rollAs_range d "4d6kh3 + 2".toList .scripted [6, 6, 6, 6]
  rw [hthrows] at hones hsixes
  obtain ⟨low, hlow, hmin⟩ :=
    hones.2.1 ⟨hvalid, fun _ hvalue => List.eq_of_mem_replicate hvalue, by decide⟩
  obtain ⟨high, hhigh, hmax⟩ :=
    hsixes.2.2 ⟨hvalid, fun _ hvalue => List.eq_of_mem_replicate hvalue, by decide⟩
  exact ⟨⟨low, hlow, hmin, (hones.1 low hlow).2.2.2⟩,
    ⟨high, hhigh, hmax, (hsixes.1 high hhigh).2.2.2⟩, by decide, by decide, by decide⟩

end Descriptor
end DiceRoller
