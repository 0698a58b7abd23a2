import Mathlib.Algebra.Ring.Int.Defs
import Mathlib.Data.List.Perm.Subperm
import Mathlib.Order.Bounds.Basic
import DiceRoller.Proofs.Roll.Range

/-!
# The best and the worst dice

A rule that keeps the highest dice is after the greatest sum that so many of the throws can have, and a
rule that keeps the lowest after the least.  It takes the first throws of its ranking instead of trying
all choices, which comes to the same: going down the ranking, a throw of any choice can be exchanged for
the one that the rule takes, and nothing is lost.  So the order of the throws makes no difference to
what a roll comes to.

Main results:

- Theorem `sum_map_le_sum_map_take`: the exchange.
- Theorem `isGreatest_keptValue` and `isLeast_keptValue`: what the throws that count come to.
- Theorem `keptValue_perm`: the order of the throws makes no difference.
- Theorem `Descriptor.rollAs_extremes`: rolls that keep the best or the worst dice.
-/

namespace DiceRoller

/-! ## Choices -/

/-- The sums of all choices of so many of the values. -/
def choiceSums (n : Nat) (values : List UInt64) : Set Nat :=
  {sum | ∃ choice : List UInt64, choice.Sublist values ∧ choice.length = n ∧
    sum = (choice.map UInt64.toNat).sum}

/-- The order of the values makes no difference to what can be chosen. -/
theorem choiceSums_subset_of_perm {values other : List UInt64} (h : values.Perm other) (n : Nat) :
    choiceSums n values ⊆ choiceSums n other := by
  intro sum hsum
  rcases hsum with ⟨choice, hchoice, hlength, hvalue⟩
  rcases hchoice.subperm.trans h.subperm with ⟨moved, hmoved, hsub⟩
  refine ⟨moved, hsub, ?_, ?_⟩
  · rw [hmoved.length_eq, hlength]
  · rw [hvalue, (hmoved.map UInt64.toNat).sum_eq]

/-- The sums of choices do not depend on the order. -/
theorem choiceSums_perm {values other : List UInt64} (h : values.Perm other) (n : Nat) :
    choiceSums n values = choiceSums n other :=
  Set.Subset.antisymm (choiceSums_subset_of_perm h n) (choiceSums_subset_of_perm h.symm n)

/-- Among the choices from values of falling worth, the first values are worth the most. -/
theorem sum_map_le_sum_map_take {α : Type} {worth : α → Int} {order choice : List α}
    (horder : order.Pairwise fun a b => worth b ≤ worth a) (h : choice.Sublist order) :
    (choice.map worth).sum ≤ ((order.take choice.length).map worth).sum := by
  induction order generalizing choice with
  | nil =>
    rw [List.sublist_nil.1 h]
    exact Int.le_refl _
  | cons first order ih =>
    rcases List.pairwise_cons.1 horder with ⟨hfirst, horder⟩
    cases choice with
    | nil => exact Int.le_refl _
    | cons chosen choice =>
      -- Whether the first value is chosen or not, what is chosen first is worth no more.
      have hchosen : worth chosen ≤ worth first ∧ choice.Sublist order := by
        rcases List.cons_sublist_cons'.1 h with hlater | ⟨rfl, hothers⟩
        · exact ⟨hfirst chosen (hlater.subset List.mem_cons_self),
            List.sublist_of_cons_sublist hlater⟩
        · exact ⟨Int.le_refl _, hothers⟩
      have hothers := ih horder hchosen.2
      rw [List.length_cons, List.take_succ_cons, List.map_cons, List.map_cons, List.sum_cons,
        List.sum_cons]
      omega

/-! ## The throws that count -/

namespace Keep

/-- What a value is worth to a rule. -/
def worth : Keep → UInt64 → Int
  | high _, value => value.toNat
  | low _, value => -value.toNat

/-- What goes before is worth as much or more. -/
theorem worth_le_of_goesBefore {keep : Keep} {a b : UInt64 × Nat}
    (h : keep.goesBefore a b = true) : keep.worth b.1 ≤ keep.worth a.1 := by
  cases keep with
  | high n =>
    simp only [goesBefore, Bool.or_eq_true, Bool.and_eq_true, decide_eq_true_eq, beq_iff_eq,
      UInt64.lt_iff_toNat_lt] at h
    rcases h with hlt | ⟨heq, -⟩
    · exact Int.ofNat_le.2 hlt.le
    · rw [heq]
  | low n =>
    simp only [goesBefore, Bool.or_eq_true, Bool.and_eq_true, decide_eq_true_eq, beq_iff_eq,
      UInt64.lt_iff_toNat_lt] at h
    rcases h with hlt | ⟨heq, -⟩
    · exact Int.neg_le_neg (Int.ofNat_le.2 hlt.le)
    · rw [heq]

/-- For the highest throws, worth is value. -/
theorem sum_map_worth_high (n : UInt64) (values : List UInt64) :
    (values.map (high n).worth).sum = ((values.map UInt64.toNat).sum : Nat) := by
  induction values with
  | nil => rfl
  | cons value values ih =>
    rw [List.map_cons, List.map_cons, List.sum_cons, List.sum_cons, ih, worth]
    omega

/-- For the lowest throws, worth is value with a minus. -/
theorem sum_map_worth_low (n : UInt64) (values : List UInt64) :
    (values.map (low n).worth).sum = -((values.map UInt64.toNat).sum : Nat) := by
  induction values with
  | nil => rfl
  | cons value values ih =>
    rw [List.map_cons, List.map_cons, List.sum_cons, List.sum_cons, ih, worth]
    omega

/-- A choice of values is worth no more than the first values of the ranking. -/
theorem sum_map_worth_le (keep : Keep) {values choice : List UInt64} (h : choice.Sublist values) :
    (choice.map keep.worth).sum ≤
      ((((keep.ranking values).map Prod.fst).take choice.length).map keep.worth).sum := by
  have hperm : ((keep.ranking values).map Prod.fst).Perm values := by
    have hranking := (ranking_perm keep values).map Prod.fst
    rwa [List.zipIdx_map_fst] at hranking
  have hsorted : ((keep.ranking values).map Prod.fst).Pairwise
      fun a b => keep.worth b ≤ keep.worth a :=
    List.pairwise_map.2 ((pairwise_ranking keep values).imp worth_le_of_goesBefore)
  rcases h.subperm.trans hperm.symm.subperm with ⟨moved, hmoved, hsub⟩
  rw [← (hmoved.map keep.worth).sum_eq, ← hmoved.length_eq]
  exact sum_map_le_sum_map_take hsorted hsub

end Keep

namespace Descriptor

variable {d : Descriptor} {keep : Keep} {values : List UInt64}

/-- The values of the throws that count. -/
def keptValues (d : Descriptor) (values : List UInt64) : List UInt64 :=
  ((d.outcomes values).filter fun outcome => outcome.kept).map Outcome.value

/-- The kept values are those of the kept outcomes. -/
theorem sum_keptValues (d : Descriptor) (values : List UInt64) :
    ((d.keptValues values).map UInt64.toNat).sum = keptValue (d.outcomes values) := by
  rw [keptValues, List.map_map]
  rfl

/-- They are some of the throws, in the order of the roll. -/
theorem keptValues_sublist (d : Descriptor) (values : List UInt64) :
    (d.keptValues values).Sublist values := by
  have hsub := (List.filter_sublist (p := fun outcome : Outcome => outcome.kept)
    (l := d.outcomes values)).map Outcome.value
  rwa [map_value_outcomes] at hsub

/-- An outcome is kept when its place is chosen. -/
theorem outcomes_eq_map (hkeep : d.keep = some keep) (values : List UInt64) :
    d.outcomes values =
      values.zipIdx.map fun thrown => ⟨thrown.1, decide (thrown.2 ∈ keep.chosen values)⟩ := by
  rw [outcomes, keptFlags, hkeep]
  simp only [Keep.select_eq_map]
  apply List.ext_getElem
  · simp
  · simp

/-- They are the first values of the ranking, in another order. -/
theorem keptValues_perm_take (hkeep : d.keep = some keep) (values : List UInt64) :
    (d.keptValues values).Perm (((keep.ranking values).map Prod.fst).take keep.count.toNat) := by
  rw [keptValues, outcomes_eq_map hkeep, List.filter_map, List.map_map, ← List.map_take]
  exact (Keep.filter_chosen_perm keep values).map Prod.fst

/-- As many values are kept as the rule says, if there are that many. -/
theorem length_keptValues (hkeep : d.keep = some keep) (values : List UInt64) :
    (d.keptValues values).length = Min.min keep.count.toNat values.length := by
  rw [(keptValues_perm_take hkeep values).length_eq, List.length_take, List.length_map,
    (Keep.ranking_perm keep values).length_eq, List.length_zipIdx]

/-- They are one of the choices of so many throws. -/
theorem keptValue_mem_choiceSums (hkeep : d.keep = some keep) (values : List UInt64) :
    keptValue (d.outcomes values) ∈ choiceSums (Min.min keep.count.toNat values.length) values :=
  ⟨d.keptValues values, d.keptValues_sublist values, length_keptValues hkeep values,
    (d.sum_keptValues values).symm⟩

/-- No choice of so many throws is worth more. -/
theorem sum_map_worth_le_keptValues (hkeep : d.keep = some keep) {choice : List UInt64}
    (hchoice : choice.Sublist values)
    (hlength : choice.length = Min.min keep.count.toNat values.length) :
    (choice.map keep.worth).sum ≤ ((d.keptValues values).map keep.worth).sum := by
  have htake : ((keep.ranking values).map Prod.fst).take keep.count.toNat =
      ((keep.ranking values).map Prod.fst).take choice.length := by
    rw [hlength, List.take_eq_take_iff, List.length_map, (Keep.ranking_perm keep values).length_eq,
      List.length_zipIdx]
    omega
  rw [((keptValues_perm_take hkeep values).map keep.worth).sum_eq, htake]
  exact keep.sum_map_worth_le hchoice

/-- The highest dice come to the greatest sum of so many throws. -/
theorem isGreatest_keptValue {n : UInt64} (hkeep : d.keep = some (.high n)) (values : List UInt64) :
    IsGreatest (choiceSums (Min.min n.toNat values.length) values)
      (keptValue (d.outcomes values)) := by
  refine ⟨keptValue_mem_choiceSums hkeep values, ?_⟩
  intro sum hsum
  rcases hsum with ⟨choice, hchoice, hlength, rfl⟩
  have hle := sum_map_worth_le_keptValues hkeep hchoice hlength
  rw [Keep.sum_map_worth_high, Keep.sum_map_worth_high, sum_keptValues] at hle
  omega

/-- The lowest dice come to the least sum of so many throws. -/
theorem isLeast_keptValue {n : UInt64} (hkeep : d.keep = some (.low n)) (values : List UInt64) :
    IsLeast (choiceSums (Min.min n.toNat values.length) values) (keptValue (d.outcomes values)) := by
  refine ⟨keptValue_mem_choiceSums hkeep values, ?_⟩
  intro sum hsum
  rcases hsum with ⟨choice, hchoice, hlength, rfl⟩
  have hle := sum_map_worth_le_keptValues hkeep hchoice hlength
  rw [Keep.sum_map_worth_low, Keep.sum_map_worth_low, sum_keptValues] at hle
  omega

/-- Without a keep rule all throws count. -/
theorem keptValues_of_no_keep (hkeep : d.keep = none) (values : List UInt64) :
    d.keptValues values = values := by
  have hall : ∀ outcome ∈ d.outcomes values, outcome.kept = true := by
    intro outcome houtcome
    have hflag : outcome.kept ∈ d.keptFlags values := by
      rw [← map_kept_outcomes]
      exact List.mem_map_of_mem houtcome
    rw [keptFlags, hkeep] at hflag
    exact (List.mem_replicate.1 hflag).2
  rw [keptValues, List.filter_eq_self.2 hall, map_value_outcomes]

/-- What the throws that count come to does not depend on the order of the throws. -/
theorem keptValue_perm {other : List UInt64} (h : values.Perm other) :
    keptValue (d.outcomes values) = keptValue (d.outcomes other) := by
  cases hkeep : d.keep with
  | none =>
    rw [← sum_keptValues, ← sum_keptValues, keptValues_of_no_keep hkeep, keptValues_of_no_keep hkeep,
      (h.map UInt64.toNat).sum_eq]
  | some keep =>
    cases keep with
    | high n =>
      have hother := isGreatest_keptValue hkeep other
      rw [← h.length_eq, ← choiceSums_perm h] at hother
      exact (isGreatest_keptValue hkeep values).unique hother
    | low n =>
      have hother := isLeast_keptValue hkeep other
      rw [← h.length_eq, ← choiceSums_perm h] at hother
      exact (isLeast_keptValue hkeep values).unique hother

/-! ## Rolls -/

/-- A roll of given throws has the sum of those that count for its first sum. -/
theorem exists_settle_of_le (label : List Char) (hlength : values.length ≤ 5000)
    (hvalues : ∀ value ∈ values, value.toNat ≤ 5000)
    (h : keptValue (d.outcomes values) + d.modifier.toInt ≤ Int64.maxValue.toInt) :
    ∃ roll, d.settle label values = .ok roll ∧
      roll.keptTotal.toInt = keptValue (d.outcomes values) ∧
      roll.total.toInt = keptValue (d.outcomes values) + d.modifier.toInt := by
  have hsettles : ∃ roll, d.settle label values = .ok roll ∧ d.IsExact label values roll :=
    settle_of_le hlength hvalues h
  rcases hsettles with ⟨roll, hroll, hexact⟩
  rcases settle_eq_ok hlength hvalues hroll with ⟨houtcomes, htotal⟩
  exact ⟨roll, hroll, by rw [hexact.keptTotal, houtcomes], htotal⟩

/-- Throws in another order make a roll of the same sums, or none for the same reason. -/
theorem map_settle_perm (label : List Char) {other : List UInt64} (hperm : values.Perm other)
    (hlength : values.length ≤ 5000) (hvalues : ∀ value ∈ values, value.toNat ≤ 5000) :
    ((d.settle label values).map fun roll => (roll.keptTotal, roll.total)) =
      (d.settle label other).map fun roll => (roll.keptTotal, roll.total) := by
  have hlength' : other.length ≤ 5000 := hperm.length_eq ▸ hlength
  have hvalues' : ∀ value ∈ other, value.toNat ≤ 5000 :=
    fun value hvalue => hvalues value (hperm.mem_iff.2 hvalue)
  have hsame : keptValue (d.outcomes values) = keptValue (d.outcomes other) := keptValue_perm hperm
  by_cases hle : keptValue (d.outcomes values) + d.modifier.toInt ≤ Int64.maxValue.toInt
  · rcases exists_settle_of_le label hlength hvalues hle with ⟨roll, hroll, hkept, htotal⟩
    rw [hsame] at hle
    rcases exists_settle_of_le label hlength' hvalues' hle with ⟨roll', hroll', hkept', htotal'⟩
    have hkepts : roll.keptTotal = roll'.keptTotal := by
      rw [← Int64.toInt_inj, hkept, hkept', hsame]
    have htotals : roll.total = roll'.total := by
      rw [← Int64.toInt_inj, htotal, htotal', hsame]
    rw [hroll, hroll']
    simp [Except.map, hkepts, htotals]
  · have hlt := Int.not_le.1 hle
    rw [settle_of_lt hlength hvalues hlt, settle_of_lt hlength' hvalues' (hsame ▸ hlt)]

/-- The best and the worst dice, for throws that all show sides.  What a roll keeps comes to the greatest
sum that so many of the throws can have when it keeps the highest dice, and to the least such sum when it
keeps the lowest; the total is that sum and the modifier, unless 64 bits do not hold it.  The same dice
in another order make a roll of the same sums, or none for the same reason. -/
theorem rollAs_extremes {σ : Type} (d : Descriptor) (label : List Char) (source : Source σ)
    (state : σ)
    (hsides : ∀ value ∈ source.throws d.sides d.count.toNat state, IsSide d.sides value) :
    let throws := source.throws d.sides d.count.toNat state
    let run := (d.rollAs label source state).1
    (d.validate = .ok () → ∃ kept : Nat,
      (∀ n, d.keep = some (.high n) →
        IsGreatest (choiceSums (Min.min n.toNat d.count.toNat) throws) kept) ∧
      (∀ n, d.keep = some (.low n) →
        IsLeast (choiceSums (Min.min n.toNat d.count.toNat) throws) kept) ∧
      (kept + d.modifier.toInt ≤ Int64.maxValue.toInt → ∃ roll, run = .ok roll ∧
        roll.keptTotal.toInt = kept ∧ roll.total.toInt = kept + d.modifier.toInt) ∧
      (Int64.maxValue.toInt < kept + d.modifier.toInt → run = .error .totalOverflow)) ∧
    ∀ (τ : Type) (other : Source τ) (start : τ),
      (other.throws d.sides d.count.toNat start).Perm throws →
      ((d.rollAs label other start).1.map fun roll => (roll.keptTotal, roll.total)) =
        run.map fun roll => (roll.keptTotal, roll.total) := by
  intro throws run
  have hcount : throws.length = d.count.toNat := Source.length_throws _ _
  refine ⟨?_, ?_⟩
  · intro hvalid
    have hrun : run = d.settle label throws := rollAs_eq_settle label hvalid hsides
    have hlength : throws.length ≤ 5000 := length_throws_le hvalid
    have hvalues : ∀ value ∈ throws, value.toNat ≤ 5000 :=
      fun value hvalue => toNat_le_of_isSide hvalid (hsides value hvalue)
    rw [hrun, ← hcount]
    exact ⟨keptValue (d.outcomes throws), fun n hkeep => isGreatest_keptValue hkeep throws,
      fun n hkeep => isLeast_keptValue hkeep throws, exists_settle_of_le label hlength hvalues,
      settle_of_lt hlength hvalues⟩
  · intro τ other start hperm
    cases hvalid : d.validate with
    | error fault =>
      have hrun : run = .error (.descriptor fault) := congrArg Prod.fst (rollAs_of_error hvalid)
      rw [hrun, rollAs_of_error hvalid]
    | ok u =>
      have hrun : run = d.settle label throws := rollAs_eq_settle label hvalid hsides
      have hother : ∀ value ∈ other.throws d.sides d.count.toNat start, IsSide d.sides value :=
        fun value hvalue => hsides value (hperm.mem_iff.1 hvalue)
      rw [hrun, rollAs_eq_settle label hvalid hother]
      apply map_settle_perm label hperm (length_throws_le hvalid)
      intro value hvalue
      exact toNat_le_of_isSide hvalid (hother value hvalue)

/-- Four dice of which the best three count, in two orders. -/
theorem rollAs_extremes_best_three :
    let d := dice 4 6 (some (.high 3)) 2
    let run := fun script => (d.rollAs "4d6kh3 + 2".toList .scripted script).1
    (∀ value ∈ [2, 5, 1, 6], IsSide d.sides value) ∧ d.validate = .ok () ∧
      (∃ (kept : Nat) (roll : Roll), IsGreatest (choiceSums 3 [2, 5, 1, 6]) kept ∧
        run [2, 5, 1, 6] = .ok roll ∧ roll.keptTotal.toInt = kept ∧ roll.total.toInt = kept + 2) ∧
      (run [6, 1, 5, 2]).map (fun roll => (roll.keptTotal, roll.total)) =
        (run [2, 5, 1, 6]).map fun roll => (roll.keptTotal, roll.total) := by
  intro d run
  have hsides : ∀ value ∈ [2, 5, 1, 6], IsSide d.sides value := by
    simp [d, dice, IsSide]
  have hvalid : d.validate = .ok () := by decide
  have hmoved : [6, 1, 5, 2].Perm [(2 : UInt64), 5, 1, 6] := by decide
  rcases rollAs_extremes d "4d6kh3 + 2".toList .scripted [2, 5, 1, 6] hsides with ⟨hkept, horder⟩
  rcases hkept hvalid with ⟨kept, hhigh, -, hfits, -⟩
  have hgreatest : IsGreatest (choiceSums 3 [2, 5, 1, 6]) kept := hhigh 3 rfl
  rcases hgreatest.1 with ⟨choice, hchoice, -, hsum⟩
  have hfew : kept ≤ 14 := by
    rw [hsum]
    exact (hchoice.map UInt64.toNat).sum_le_sum fun n _ => Nat.zero_le n
  have hle : (kept : Int) + 2 ≤ Int64.maxValue.toInt := by
    rw [Int64.toInt_maxValue]
    omega
  rcases hfits hle with ⟨roll, hroll, hkeptTotal, htotal⟩
  exact ⟨hsides, hvalid, ⟨kept, roll, hgreatest, hroll, hkeptTotal, htotal⟩,
    horder _ .scripted [6, 1, 5, 2] hmoved⟩

end Descriptor
end DiceRoller
