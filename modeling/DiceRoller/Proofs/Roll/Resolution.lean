import Mathlib.Algebra.Order.BigOperators.Group.List
import Mathlib.Algebra.Order.Ring.Nat
import DiceRoller.Proofs.Roll.Throws
import DiceRoller.Roll.Resolve

/-!
# What a roll comes to

For every descriptor and every source: which requests a roll makes, where it stops, and what it comes
to, with the sums taken in the integers instead of 64 bits.  Five thousand throws of at most five
thousand each are far from the limit of 64 bits, so only the modifier can lead beyond it.

Main results:

- Theorem `addWithin_eq_some_iff`: a checked sum is the sum in the integers.
- Theorem `exists_keptSum`: the throws that count always have a sum.
- Theorem `settle_of_le` and `settle_of_lt`: when given throws make a roll.
- Theorem `rollAs_outcome`: the outcome of a roll and the requests it makes.
-/

namespace DiceRoller

/-! ## Sums -/

/-- A checked sum is the sum in the integers. -/
theorem addWithin_eq_some_iff {a b c : Int64} :
    addWithin a b = some c ↔ c.toInt = a.toInt + b.toInt := by
  have hlow := c.minValue_le_toInt
  have hhigh := c.toInt_le
  unfold addWithin
  constructor
  · intro h
    split at h
    · rename_i hrange
      cases h
      exact Int64.toInt_ofInt_of_le hrange.1 (Int.lt_of_le_of_lt hrange.2 (by decide))
    · cases h
  · intro h
    rw [← h, if_pos ⟨hlow, hhigh⟩, Int64.ofInt_toInt]

/-- A checked sum fails where the sum in the integers has no 64 bit number. -/
theorem addWithin_eq_none_iff {a b : Int64} :
    addWithin a b = none ↔
      a.toInt + b.toInt < Int64.minValue.toInt ∨ Int64.maxValue.toInt < a.toInt + b.toInt := by
  unfold addWithin
  constructor
  · intro h
    split at h
    · cases h
    · omega
  · intro h
    exact if_neg (by omega)

/-- The sum of the throws that count. -/
def keptValue (outcomes : List Outcome) : Nat :=
  ((outcomes.filter fun outcome => outcome.kept).map fun outcome => outcome.value.toNat).sum

/-- A throw that has room keeps its value. -/
theorem signedThrow_eq_some {value : UInt64} (h : value.toNat ≤ Int64.maxValue.toInt) :
    ∃ n, Descriptor.signedThrow value = some n ∧ n.toInt = value.toNat := by
  have hmax : Int64.maxValue.toInt = 2 ^ 63 - 1 := by decide
  refine ⟨Int64.ofNat value.toNat, ?_, Int64.toInt_ofNat_of_lt (by omega)⟩
  rw [Descriptor.signedThrow, if_pos (by omega)]

/-- Adding up throws one after the other gives their sum, as long as it fits. -/
theorem exists_foldlM_addWithin {outcomes : List Outcome} {sum : Int64} (hnonneg : 0 ≤ sum.toInt)
    (h : sum.toInt + ((outcomes.map fun outcome => outcome.value.toNat).sum : Nat) ≤
      Int64.maxValue.toInt) :
    ∃ total : Int64,
      outcomes.foldlM
        (fun sum outcome => (Descriptor.signedThrow outcome.value).bind (addWithin sum)) sum =
          some total ∧
      total.toInt = sum.toInt + ((outcomes.map fun outcome => outcome.value.toNat).sum : Nat) := by
  induction outcomes generalizing sum with
  | nil => exact ⟨sum, rfl, by simp⟩
  | cons outcome outcomes ih =>
    rw [List.map_cons, List.sum_cons] at h ⊢
    have hle : (outcome.value.toNat : Int) ≤ Int64.maxValue.toInt := by omega
    rcases signedThrow_eq_some hle with ⟨n, hn, hvalue⟩
    have hfits : addWithin sum n ≠ none := by
      intro hnone
      rcases addWithin_eq_none_iff.1 hnone with hlow | hhigh
      · have hmin : Int64.minValue.toInt ≤ 0 := by decide
        omega
      · omega
    rcases Option.ne_none_iff_exists'.1 hfits with ⟨next, hnext⟩
    have hsum := addWithin_eq_some_iff.1 hnext
    have hnextNonneg : 0 ≤ next.toInt := by omega
    rcases ih hnextNonneg (by omega) with ⟨total, htotal, hvalueTotal⟩
    refine ⟨total, ?_, by omega⟩
    rw [List.foldlM_cons, hn, Option.bind_some, hnext]
    exact htotal

namespace Descriptor

variable {d : Descriptor}

/-- Throws of a die that can be rolled are at most five thousand each, and at most so many. -/
theorem keptValue_le {values : List UInt64} (hlength : values.length ≤ 5000)
    (hvalues : ∀ value ∈ values, value.toNat ≤ 5000) :
    keptValue (d.outcomes values) ≤ 5000 * 5000 := by
  have hkept : ((d.outcomes values).filter fun outcome => outcome.kept).length ≤ 5000 := by
    have hfilter := List.length_filter_le (fun outcome : Outcome => outcome.kept) (d.outcomes values)
    rw [length_outcomes] at hfilter
    omega
  have hbound : ∀ n ∈ ((d.outcomes values).filter fun outcome => outcome.kept).map
      fun outcome => outcome.value.toNat, n ≤ 5000 := by
    intro n hn
    rcases List.mem_map.1 hn with ⟨outcome, houtcome, rfl⟩
    apply hvalues
    rw [← map_value_outcomes d values]
    exact List.mem_map_of_mem (List.mem_of_mem_filter houtcome)
  have hsum := List.sum_le_card_nsmul _ 5000 hbound
  rw [List.length_map] at hsum
  exact hsum.trans (Nat.mul_le_mul_right 5000 hkept)

/-- The throws that count always have a sum, so the check of that sum never fails. -/
theorem exists_keptSum {values : List UInt64} (hlength : values.length ≤ 5000)
    (hvalues : ∀ value ∈ values, value.toNat ≤ 5000) :
    ∃ sum, keptSum (d.outcomes values) = some sum ∧
      sum.toInt = keptValue (d.outcomes values) := by
  have hle := keptValue_le (d := d) hlength hvalues
  have hmax : Int64.maxValue.toInt = 2 ^ 63 - 1 := by decide
  have hfits : (0 : Int64).toInt + (keptValue (d.outcomes values) : Nat) ≤
      Int64.maxValue.toInt := by
    rw [Int64.toInt_zero]
    omega
  have hzero : 0 ≤ (0 : Int64).toInt := by decide
  rcases exists_foldlM_addWithin hzero hfits with ⟨sum, hsum, hvalue⟩
  refine ⟨sum, hsum, ?_⟩
  rw [hvalue, Int64.toInt_zero, Int.zero_add]
  rfl

/-! ## Given throws -/

/-- Each outcome has the flag of its throw. -/
theorem map_kept_outcomes (d : Descriptor) (values : List UInt64) :
    (d.outcomes values).map Outcome.kept = d.keptFlags values := by
  have hflags : (d.keptFlags values).length = values.length := by
    rw [keptFlags]
    split <;> simp
  rw [outcomes]
  generalize d.keptFlags values = flags at hflags
  induction values generalizing flags with
  | nil =>
    rw [List.length_nil, List.length_eq_zero_iff] at hflags
    rw [hflags]
    rfl
  | cons value values ih =>
    cases flags with
    | nil => cases hflags
    | cons flag flags =>
      have hothers : flags.length = values.length := by simpa using hflags
      rw [List.zipWith_cons_cons, List.map_cons, ih flags hothers]

/-- Which descriptors are looked at for critical throws. -/
theorem isSingleD20_iff : d.isSingleD20 = true ↔ d.count = 1 ∧ d.sides = 20 ∧ d.keep = none := by
  simp [isSingleD20, and_assoc]

/-- The throw of a single twenty sided die is a success if it shows a twenty. -/
theorem critical_eq_success_iff {values : List UInt64} :
    d.critical values = .success ↔
      d.count = 1 ∧ d.sides = 20 ∧ d.keep = none ∧ values = [20] := by
  unfold critical
  constructor
  · intro h
    split at h
    · rename_i hsingle
      rcases isSingleD20_iff.1 hsingle with ⟨hcount, hsides, hkeep⟩
      split at h
      · exact ⟨hcount, hsides, hkeep, rfl⟩
      · cases h
      · cases h
    · cases h
  · intro h
    rcases h with ⟨hcount, hsides, hkeep, rfl⟩
    rw [if_pos (isSingleD20_iff.2 ⟨hcount, hsides, hkeep⟩)]
    rfl

/-- It is a fumble if it shows a one. -/
theorem critical_eq_fumble_iff {values : List UInt64} :
    d.critical values = .fumble ↔
      d.count = 1 ∧ d.sides = 20 ∧ d.keep = none ∧ values = [1] := by
  unfold critical
  constructor
  · intro h
    split at h
    · rename_i hsingle
      rcases isSingleD20_iff.1 hsingle with ⟨hcount, hsides, hkeep⟩
      split at h
      · cases h
      · exact ⟨hcount, hsides, hkeep, rfl⟩
      · cases h
    · cases h
  · intro h
    rcases h with ⟨hcount, hsides, hkeep, rfl⟩
    rw [if_pos (isSingleD20_iff.2 ⟨hcount, hsides, hkeep⟩)]
    rfl

/-- A roll is the exact result of given throws: all of them are there, in order, the ones that count
are those of the keep rule, and both sums are sums in the integers. -/
structure IsExact (d : Descriptor) (label : List Char) (values : List UInt64) (roll : Roll) :
    Prop where
  descriptor : roll.descriptor = d
  label : roll.label = label
  shown : roll.outcomes.map Outcome.value = values
  flags_keep : ∀ keep, d.keep = some keep → roll.outcomes.map Outcome.kept = keep.select values
  flags_all : d.keep = none → ∀ outcome ∈ roll.outcomes, outcome.kept = true
  keptTotal : roll.keptTotal.toInt = keptValue roll.outcomes
  total : roll.total.toInt = keptValue roll.outcomes + d.modifier.toInt
  success : roll.critical = .success ↔
    d.count = 1 ∧ d.sides = 20 ∧ d.keep = none ∧ values = [20]
  fumble : roll.critical = .fumble ↔ d.count = 1 ∧ d.sides = 20 ∧ d.keep = none ∧ values = [1]

/-- Given throws make a roll when their sum with the modifier fits. -/
theorem settle_of_le {label : List Char} {values : List UInt64} (hlength : values.length ≤ 5000)
    (hvalues : ∀ value ∈ values, value.toNat ≤ 5000)
    (h : keptValue (d.outcomes values) + d.modifier.toInt ≤ Int64.maxValue.toInt) :
    ∃ roll, d.settle label values = .ok roll ∧ d.IsExact label values roll := by
  rcases exists_keptSum (d := d) hlength hvalues with ⟨sum, hsum, hvalue⟩
  have hfits : addWithin sum d.modifier ≠ none := by
    intro hnone
    have hmodifier := d.modifier.minValue_le_toInt
    rcases addWithin_eq_none_iff.1 hnone with hlow | hhigh
    · omega
    · omega
  rcases Option.ne_none_iff_exists'.1 hfits with ⟨total, htotal⟩
  refine ⟨⟨d, label, d.outcomes values, sum, total, d.critical values⟩, ?_, ?_⟩
  · rw [settle, hsum]
    simp only [htotal]
  · constructor
    · rfl
    · rfl
    · exact map_value_outcomes d values
    · intro keep hkeep
      rw [map_kept_outcomes, keptFlags, hkeep]
    · intro hkeep outcome houtcome
      have hflag : outcome.kept ∈ d.keptFlags values := by
        rw [← map_kept_outcomes]
        exact List.mem_map_of_mem houtcome
      rw [keptFlags, hkeep] at hflag
      exact (List.mem_replicate.1 hflag).2
    · exact hvalue
    · rw [← hvalue]
      exact addWithin_eq_some_iff.1 htotal
    · exact critical_eq_success_iff
    · exact critical_eq_fumble_iff

/-- Given throws make no roll when their sum with the modifier does not fit. -/
theorem settle_of_lt {label : List Char} {values : List UInt64} (hlength : values.length ≤ 5000)
    (hvalues : ∀ value ∈ values, value.toNat ≤ 5000)
    (h : Int64.maxValue.toInt < keptValue (d.outcomes values) + d.modifier.toInt) :
    d.settle label values = .error .totalOverflow := by
  rcases exists_keptSum (d := d) hlength hvalues with ⟨sum, hsum, hvalue⟩
  have hnone : addWithin sum d.modifier = none := by
    apply addWithin_eq_none_iff.2
    right
    rw [hvalue]
    exact h
  rw [settle, hsum]
  simp only [hnone]

/-! ## Rolls -/

/-- An invalid descriptor throws nothing. -/
theorem rollAs_of_error {σ : Type} {source : Source σ} {label : List Char} {state : σ}
    {fault : DescriptorFault} (h : d.validate = .error fault) :
    d.rollAs label source state = (.error (.descriptor fault), state) := by
  rw [rollAs, h]

/-- A valid one throws its dice and settles them. -/
theorem rollAs_of_ok {σ : Type} {source : Source σ} {label : List Char} {state : σ}
    (h : d.validate = .ok ()) :
    d.rollAs label source state =
      ((source.rollDice d.sides d.count.toNat state).1.bind (d.settle label),
        (source.rollDice d.sides d.count.toNat state).2) := by
  rw [rollAs, h]

/-- A record of the requests changes nothing about a roll. -/
theorem rollAs_recorded {σ : Type} (source : Source σ) (label : List Char) (state : σ) :
    ((d.rollAs label source.recorded ([], state)).1,
      (d.rollAs label source.recorded ([], state)).2.2) = d.rollAs label source state := by
  cases hvalid : d.validate with
  | error fault => rw [rollAs_of_error hvalid, rollAs_of_error hvalid]
  | ok u =>
    rw [rollAs_of_ok hvalid, rollAs_of_ok hvalid,
      ← Source.rollDice_recorded d.count.toNat [] state]

/-- The sides that a roll asks for are those of its descriptor, which are within the limits. -/
theorem sides_of_request {sides : UInt64} {n : Nat} (hvalid : d.validate = .ok ())
    (hn : n ≤ d.count.toNat) (h : sides ∈ List.replicate n d.sides) :
    sides = d.sides ∧ 1 ≤ sides ∧ sides ≤ 5000 := by
  rcases List.mem_replicate.1 h with ⟨hpos, rfl⟩
  rcases validate_eq_ok_iff.1 hvalid with ⟨-, hsides, hnone, -⟩
  have hzero : d.sides ≠ 0 := by
    intro hzero
    have hcount := (hnone hzero).1
    rw [hcount, UInt64.toNat_zero] at hn
    omega
  refine ⟨rfl, ?_, hsides⟩
  rw [UInt64.le_iff_toNat_le]
  have hne : d.sides.toNat ≠ 0 := by
    intro h
    exact hzero (UInt64.toNat_inj.1 h)
  have hone : UInt64.toNat 1 = 1 := rfl
  omega

/-- A valid descriptor has a limited number of throws. -/
theorem length_throws_le {σ : Type} {source : Source σ} {state : σ}
    (hvalid : d.validate = .ok ()) :
    (source.throws d.sides d.count.toNat state).length ≤ 5000 := by
  have hcount := (validate_eq_ok_iff.1 hvalid).1
  rw [Source.length_throws]
  exact UInt64.le_iff_toNat_le.1 hcount

/-- And each of them is limited. -/
theorem toNat_le_of_isSide {value : UInt64} (hvalid : d.validate = .ok ())
    (h : IsSide d.sides value) : value.toNat ≤ 5000 := by
  have hsides := (validate_eq_ok_iff.1 hvalid).2.1
  exact UInt64.le_iff_toNat_le.1 (UInt64.le_trans h.2 hsides)

section Requests

variable {σ : Type} {label : List Char} {source : Source σ} {state : σ}

/-- A throw that shows no side ends the roll right there. -/
theorem rollAs_of_first_bad {good others : List UInt64} {bad : UInt64}
    (hvalid : d.validate = .ok ())
    (hthrows : source.throws d.sides d.count.toNat state = good ++ bad :: others)
    (hgood : ∀ value ∈ good, IsSide d.sides value) (hbad : ¬ IsSide d.sides bad) :
    d.rollAs label source.recorded ([], state) =
      (.error (.badThrow bad d.sides), List.replicate (good.length + 1) d.sides,
        source.after d.sides (good.length + 1) state) := by
  have hrecorded : source.recorded.throws d.sides d.count.toNat ([], state) =
      good ++ bad :: others := by
    rw [Source.throws_recorded, hthrows]
  rw [rollAs_of_ok hvalid, Source.rollDice_of_first_bad hrecorded hgood hbad,
    Source.after_recorded, List.nil_append]
  rfl

/-- Throws that all show sides are handed on as they are. -/
theorem rollAs_of_sides (hvalid : d.validate = .ok ())
    (hsides : ∀ value ∈ source.throws d.sides d.count.toNat state, IsSide d.sides value) :
    d.rollAs label source.recorded ([], state) =
      (d.settle label (source.throws d.sides d.count.toNat state),
        List.replicate d.count.toNat d.sides, source.after d.sides d.count.toNat state) := by
  have hrecorded : ∀ value ∈ source.recorded.throws d.sides d.count.toNat ([], state),
      IsSide d.sides value := by
    rw [Source.throws_recorded]
    exact hsides
  rw [rollAs_of_ok hvalid, Source.rollDice_of_sides hrecorded, Source.after_recorded,
    Source.throws_recorded, List.nil_append]
  rfl

/-- A roll has one of three courses: it is refused, it is ended by a throw, or all its dice are
thrown. -/
theorem rollAs_courses (label : List Char) (source : Source σ) (state : σ) :
    (∃ fault, d.rollAs label source.recorded ([], state) =
        (.error (.descriptor fault), [], state)) ∨
      (∃ bad n, d.validate = .ok () ∧ n ≤ d.count.toNat ∧
        d.rollAs label source.recorded ([], state) =
          (.error (.badThrow bad d.sides), List.replicate n d.sides,
            source.after d.sides n state)) ∨
      (∃ values, d.validate = .ok () ∧ values.length ≤ 5000 ∧
        (∀ value ∈ values, value.toNat ≤ 5000) ∧
        d.rollAs label source.recorded ([], state) =
          (d.settle label values, List.replicate d.count.toNat d.sides,
            source.after d.sides d.count.toNat state)) := by
  cases hvalid : d.validate with
  | error fault =>
    left
    exact ⟨fault, rollAs_of_error hvalid⟩
  | ok u =>
    right
    rcases all_isSide_or_first_bad d.sides (source.throws d.sides d.count.toNat state) with
      hsides | ⟨good, bad, others, heq, hgood, hbad⟩
    · right
      refine ⟨_, rfl, length_throws_le hvalid, ?_, rollAs_of_sides hvalid hsides⟩
      intro value hvalue
      exact toNat_le_of_isSide hvalid (hsides value hvalue)
    · left
      have hlength := congrArg List.length heq
      rw [Source.length_throws, List.length_append, List.length_cons] at hlength
      exact ⟨bad, good.length + 1, rfl, by omega, rollAs_of_first_bad hvalid heq hgood hbad⟩

/-- A source is asked for the sides of the descriptor only, and these are within the limits. -/
theorem requests_of_rollAs {sides : UInt64}
    (h : sides ∈ (d.rollAs label source.recorded ([], state)).2.1) :
    sides = d.sides ∧ 1 ≤ sides ∧ sides ≤ 5000 := by
  rcases rollAs_courses label source state with
    ⟨fault, hrun⟩ | ⟨bad, n, hvalid, hn, hrun⟩ | ⟨values, hvalid, -, -, hrun⟩
  · rw [hrun] at h
    cases h
  · rw [hrun] at h
    exact sides_of_request hvalid hn h
  · rw [hrun] at h
    exact sides_of_request hvalid (Nat.le_refl _) h

/-- The sum of the throws that count is never too large. -/
theorem rollAs_ne_keptTotalOverflow :
    (d.rollAs label source.recorded ([], state)).1 ≠ .error .keptTotalOverflow := by
  intro h
  rcases rollAs_courses label source state with
    ⟨fault, hrun⟩ | ⟨bad, n, -, -, hrun⟩ | ⟨values, -, hlength, hvalues, hrun⟩
  · rw [hrun] at h
    cases h
  · rw [hrun] at h
    cases h
  · rw [hrun] at h
    rcases exists_keptSum (d := d) hlength hvalues with ⟨sum, hsum, -⟩
    simp only [settle, hsum] at h
    cases htotal : addWithin sum d.modifier with
    | none => simp [htotal] at h
    | some total => simp [htotal] at h

end Requests

/-- The outcome of a roll, for every descriptor and every source, together with a record of the sides
that the source was asked for.

A descriptor that cannot be rolled asks for nothing.  Otherwise only dice with the sides of the
descriptor are thrown; the first throw that shows no side ends the roll right there, and without such
a throw there are as many throws as dice, which make an exact roll unless its total is too large. -/
theorem rollAs_outcome {σ : Type} (d : Descriptor) (label : List Char) (source : Source σ)
    (state : σ) :
    let throws := source.throws d.sides d.count.toNat state
    let run := d.rollAs label source.recorded ([], state)
    (run.1, run.2.2) = d.rollAs label source state ∧
    (∀ sides ∈ run.2.1, sides = d.sides ∧ 1 ≤ sides ∧ sides ≤ 5000) ∧
    run.1 ≠ .error .keptTotalOverflow ∧
    (∀ fault, d.validate = .error fault → run = (.error (.descriptor fault), [], state)) ∧
    (∀ good bad others, d.validate = .ok () ∧ throws = good ++ bad :: others ∧
        (∀ value ∈ good, IsSide d.sides value) ∧ ¬ IsSide d.sides bad →
      run = (.error (.badThrow bad d.sides), List.replicate (good.length + 1) d.sides,
        source.after d.sides (good.length + 1) state)) ∧
    (d.validate = .ok () ∧ (∀ value ∈ throws, IsSide d.sides value) →
      run.2 = (List.replicate d.count.toNat d.sides, source.after d.sides d.count.toNat state) ∧
      (keptValue (d.outcomes throws) + d.modifier.toInt ≤ Int64.maxValue.toInt →
        ∃ roll, run.1 = .ok roll ∧ d.IsExact label throws roll) ∧
      (Int64.maxValue.toInt < keptValue (d.outcomes throws) + d.modifier.toInt →
        run.1 = .error .totalOverflow)) := by
  intro throws run
  refine ⟨rollAs_recorded source label state, ?_, rollAs_ne_keptTotalOverflow, ?_, ?_, ?_⟩
  · intro sides hsides
    exact requests_of_rollAs hsides
  · intro fault hfault
    exact rollAs_of_error hfault
  · intro good bad others h
    rcases h with ⟨hvalid, heq, hgood, hbad⟩
    exact rollAs_of_first_bad hvalid heq hgood hbad
  · intro h
    rcases h with ⟨hvalid, hsides⟩
    have hrun : run = _ := rollAs_of_sides hvalid hsides
    have hlength : throws.length ≤ 5000 := length_throws_le hvalid
    have hvalues : ∀ value ∈ throws, value.toNat ≤ 5000 := by
      intro value hvalue
      exact toNat_le_of_isSide hvalid (hsides value hvalue)
    rw [hrun]
    refine ⟨rfl, ?_, ?_⟩
    · intro hle
      exact settle_of_le hlength hvalues hle
    · intro hlt
      exact settle_of_lt hlength hvalues hlt

end Descriptor
end DiceRoller
