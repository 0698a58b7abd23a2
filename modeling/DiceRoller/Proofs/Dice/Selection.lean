import Mathlib.Data.List.Basic
import Mathlib.Data.List.Nodup
import Mathlib.Data.List.Perm.Basic
import DiceRoller.Dice.Keep

/-!
# Which throws a keep rule keeps

A keep rule puts the throws in order of preference and keeps the first of them.  It does so by their
places, and sets a flag at each place that is kept.  Every throw has a place of its own, so the rule
keeps as many throws as it says, or all of them when there are fewer.

Main results:

- Theorem `pairwise_ranking`: the throws in order of preference, of equal ones the earlier first.
- Theorem `nodup_chosen`: no place is chosen twice.
- Theorem `filter_chosen_perm`: the throws at the places that are chosen are the first of that order.
- Theorem `select_eq_map`: the flags are set at the places that are chosen.
- Theorem `count_true_select`: how many throws are kept.
-/

namespace DiceRoller
namespace Keep

variable {keep : Keep} {values : List UInt64}

/-! ## Order of preference -/

/-- To be at least as good goes on. -/
theorem prefers_trans (u v w : UInt64) (huv : keep.prefers u v = true)
    (hvw : keep.prefers v w = true) : keep.prefers u w = true := by
  cases keep with
  | high n =>
    simp only [prefers, decide_eq_true_eq] at huv hvw ⊢
    exact UInt64.le_trans hvw huv
  | low n =>
    simp only [prefers, decide_eq_true_eq] at huv hvw ⊢
    exact UInt64.le_trans huv hvw

/-- Of two values one is at least as good as the other. -/
theorem prefers_total (v w : UInt64) : (keep.prefers v w || keep.prefers w v) = true := by
  cases keep with
  | high n =>
    simp only [prefers, Bool.or_eq_true, decide_eq_true_eq]
    exact UInt64.le_total w v
  | low n =>
    simp only [prefers, Bool.or_eq_true, decide_eq_true_eq]
    exact UInt64.le_total v w

/-- Two values that are as good as each other are equal. -/
theorem eq_of_prefers {v w : UInt64} (hvw : keep.prefers v w = true)
    (hwv : keep.prefers w v = true) : v = w := by
  cases keep with
  | high n =>
    simp only [prefers, decide_eq_true_eq] at hvw hwv
    exact UInt64.le_antisymm hwv hvw
  | low n =>
    simp only [prefers, decide_eq_true_eq] at hvw hwv
    exact UInt64.le_antisymm hvw hwv

/-- Whether throw `a` goes before throw `b`: the values decide, and between equal values the places. -/
def goesBefore (keep : Keep) (a b : UInt64 × Nat) : Bool :=
  match keep with
  | high _ => b.1 < a.1 || (a.1 == b.1 && a.2 ≤ b.2)
  | low _ => a.1 < b.1 || (a.1 == b.1 && a.2 ≤ b.2)

/-- A throw goes before another one when its value is at least as good, and its place decides
between equal values. -/
theorem goesBefore_iff {a b : UInt64 × Nat} :
    keep.goesBefore a b = true ↔
      keep.prefers a.1 b.1 = true ∧ (a.1 = b.1 → a.2 ≤ b.2) := by
  cases keep <;>
    simp only [goesBefore, prefers, Bool.or_eq_true, Bool.and_eq_true, decide_eq_true_eq,
      beq_iff_eq] <;>
    grind

/-- Two throws that go before each other are the same. -/
theorem goesBefore_antisymm {a b : UInt64 × Nat} (hab : keep.goesBefore a b = true)
    (hba : keep.goesBefore b a = true) : a = b := by
  rcases goesBefore_iff.1 hab with ⟨hle, hplace⟩
  rcases goesBefore_iff.1 hba with ⟨hge, hplace'⟩
  have hvalue := eq_of_prefers hle hge
  exact Prod.ext hvalue (Nat.le_antisymm (hplace hvalue) (hplace' hvalue.symm))

/-! ## The ranking -/

/-- The throws as they were made, in the order of their places. -/
theorem pairwise_zipIdx (values : List UInt64) :
    values.zipIdx.Pairwise fun a b => a.2 < b.2 := by
  rw [← List.pairwise_map, List.zipIdx_map_snd]
  exact List.pairwise_lt_range'

/-- The ranking leaves the throws of one value as they were made. -/
theorem filter_ranking (keep : Keep) (values : List UInt64) (v : UInt64) :
    (keep.ranking values).filter (fun a => a.1 == v) = values.zipIdx.filter fun a => a.1 == v := by
  have hequal : (values.zipIdx.filter fun a => a.1 == v).Pairwise
      fun a b => keep.prefers a.1 b.1 = true := by
    apply List.pairwise_of_forall_mem_list
    intro a ha b hb
    have hvalue : a.1 = v := by simpa using (List.mem_filter.1 ha).2
    have hvalue' : b.1 = v := by simpa using (List.mem_filter.1 hb).2
    rw [hvalue, hvalue']
    simpa using keep.prefers_total v v
  -- They are in order as they were made, so a stable sort keeps them as a part.
  have hsub := List.sublist_mergeSort (fun a b c => prefers_trans a.1 b.1 c.1)
    (fun a b => prefers_total a.1 b.1) hequal List.filter_sublist
  have hfilter := hsub.filter fun a => a.1 == v
  rw [List.filter_filter] at hfilter
  simp only [Bool.and_self] at hfilter
  exact (hfilter.eq_of_length (((List.mergeSort_perm _ _).filter _).length_eq.symm)).symm

/-- Of two throws in the ranking, the first one goes before the second: it is at least as good, and of
two equal ones it is the earlier. -/
theorem pairwise_ranking (keep : Keep) (values : List UInt64) :
    (keep.ranking values).Pairwise fun a b => keep.goesBefore a b = true := by
  rw [List.pairwise_iff_forall_sublist]
  intro a b hab
  have hsorted := List.pairwise_mergeSort (fun a b c => @prefers_trans keep a.1 b.1 c.1)
    (fun a b => prefers_total a.1 b.1) values.zipIdx
  refine goesBefore_iff.2 ⟨List.pairwise_iff_forall_sublist.1 hsorted hab, fun hvalue => ?_⟩
  -- Two throws of one value stand in the ranking as they were made.
  have hclass := hab.filter fun c => c.1 == b.1
  rw [filter_ranking, List.filter_cons_of_pos (by simpa using hvalue),
    List.filter_cons_of_pos (by simp), List.filter_nil] at hclass
  have hplaces := pairwise_zipIdx values
  exact Nat.le_of_lt (List.pairwise_iff_forall_sublist.1 hplaces
    (hclass.trans List.filter_sublist))

/-- The throws of the ranking are those that were made. -/
theorem ranking_perm (keep : Keep) (values : List UInt64) :
    (keep.ranking values).Perm values.zipIdx :=
  List.mergeSort_perm _ _

/-- Every throw has a place of its own. -/
theorem nodup_map_snd_zipIdx (values : List UInt64) : (values.zipIdx.map Prod.snd).Nodup := by
  rw [List.zipIdx_map_snd]
  exact List.nodup_range'

/-- No throw stands twice in the ranking. -/
theorem nodup_ranking (keep : Keep) (values : List UInt64) : (keep.ranking values).Nodup :=
  (ranking_perm keep values).nodup_iff.2 ((nodup_map_snd_zipIdx values).of_map Prod.snd)

/-- The first of the ranking are chosen, by their places. -/
theorem chosen_eq_map_take (keep : Keep) (values : List UInt64) :
    keep.chosen values = ((keep.ranking values).take keep.count.toNat).map Prod.snd :=
  rfl

/-! ## Places -/

/-- The places are a first part of all places, put in order of preference. -/
theorem exists_perm_chosen (keep : Keep) (values : List UInt64) :
    ∃ order : List Nat, order.Perm (List.range values.length) ∧
      keep.chosen values = order.take keep.count.toNat := by
  refine ⟨(keep.ranking values).map Prod.snd, ?_, ?_⟩
  · have hsorted := (ranking_perm keep values).map Prod.snd
    rwa [List.zipIdx_map_snd, ← List.range_eq_range'] at hsorted
  · rw [chosen_eq_map_take, List.map_take]

/-- No place is chosen twice. -/
theorem nodup_chosen (keep : Keep) (values : List UInt64) : (keep.chosen values).Nodup := by
  obtain ⟨order, hperm, hchosen⟩ := exists_perm_chosen keep values
  rw [hchosen]
  exact (hperm.nodup_iff.2 List.nodup_range).sublist (List.take_sublist _ _)

/-- Only places of the roll are chosen. -/
theorem lt_of_mem_chosen {place : Nat} (h : place ∈ keep.chosen values) :
    place < values.length := by
  obtain ⟨order, hperm, hchosen⟩ := exists_perm_chosen keep values
  rw [hchosen] at h
  exact List.mem_range.1 (hperm.mem_iff.1 (List.mem_of_mem_take h))

/-- As many places are chosen as the rule says, as far as there are so many. -/
@[simp]
theorem length_chosen (keep : Keep) (values : List UInt64) :
    (keep.chosen values).length = min keep.count.toNat values.length := by
  obtain ⟨order, hperm, hchosen⟩ := exists_perm_chosen keep values
  rw [hchosen, List.length_take, hperm.length_eq, List.length_range]

/-- The throws at the places that are chosen are the first of the ranking. -/
theorem filter_chosen_perm (keep : Keep) (values : List UInt64) :
    (values.zipIdx.filter fun thrown => thrown.2 ∈ keep.chosen values).Perm
      ((keep.ranking values).take keep.count.toNat) := by
  have hplaces := nodup_map_snd_zipIdx values
  rw [List.perm_ext_iff_of_nodup ((hplaces.of_map Prod.snd).filter _)
    ((nodup_ranking keep values).sublist (List.take_sublist _ _))]
  intro thrown
  rw [List.mem_filter, decide_eq_true_iff, chosen_eq_map_take]
  constructor
  · intro h
    rcases List.mem_map.1 h.2 with ⟨other, hother, hplace⟩
    -- A place belongs to one throw only.
    have hmem := (ranking_perm keep values).mem_iff.1 (List.mem_of_mem_take hother)
    rwa [← List.inj_on_of_nodup_map hplaces hmem h.1 hplace]
  · intro h
    exact ⟨(ranking_perm keep values).mem_iff.1 (List.mem_of_mem_take h), List.mem_map_of_mem h⟩

/-! ## Flags -/

/-- Setting flags at some places sets these and leaves the others as they are. -/
theorem getElem_foldl_set (places : List Nat) (flags : Array Bool) (i : Nat)
    (h : i < (places.foldl (fun flags place => flags.setIfInBounds place true) flags).size)
    (hi : i < flags.size) :
    (places.foldl (fun flags place => flags.setIfInBounds place true) flags)[i] =
      (decide (i ∈ places) || flags[i]) := by
  induction places generalizing flags with
  | nil => simp
  | cons place places ih =>
    simp only [List.foldl_cons]
    rw [ih _ _ (by simpa using hi), Array.getElem_setIfInBounds (by simpa using hi)]
    by_cases hplace : place = i
    · simp [hplace]
    · have hne : i ≠ place := fun heq => hplace heq.symm
      simp [hplace, hne]

/-- The flags are set at the places that are chosen. -/
theorem select_eq_map (keep : Keep) (values : List UInt64) :
    keep.select values =
      (List.range values.length).map fun place => decide (place ∈ keep.chosen values) := by
  apply List.ext_getElem
  · simp
  · intro i hi hi'
    simp only [length_select] at hi
    simp only [select, Array.getElem_toList, List.getElem_map, List.getElem_range]
    rw [getElem_foldl_set _ _ _ _ (by simpa using hi)]
    simp

/-- A rule keeps as many throws as it says, or all of them when there are fewer. -/
theorem count_true_select (keep : Keep) (values : List UInt64) :
    (keep.select values).count true = min keep.count.toNat values.length := by
  have hplaces : ((List.range values.length).filter (· ∈ keep.chosen values)).Perm
      (keep.chosen values) := by
    rw [List.perm_ext_iff_of_nodup (List.nodup_range.filter _) (nodup_chosen keep values)]
    intro place
    simp only [List.mem_filter, List.mem_range, decide_eq_true_eq, and_iff_right_iff_imp]
    exact lt_of_mem_chosen
  rw [select_eq_map, List.count, List.countP_map, ← length_chosen, ← hplaces.length_eq,
    List.countP_eq_length_filter]
  congr 1
  apply List.filter_congr
  simp

end Keep
end DiceRoller
