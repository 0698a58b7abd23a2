import Mathlib.Data.Finset.Card
import Mathlib.Data.Fintype.Basic
import Mathlib.Data.List.FinRange
import DiceRoller.Proofs.Dice.Selection

/-!
# Ranks of throws

A keep rule sorts the throws, takes the first of them, and sets flags at their places.  What comes
of that is said without any sorting: a throw is kept when fewer throws than the rule keeps are ahead
of it, and ahead of a throw are the better ones and the equal ones that were thrown earlier.  The
link is the place of a throw in the ranking, which is the number of throws ahead of it.

Main results:

- Theorem `mem_take_iff_countP_lt`: the first elements of a list in strict order, by counting.
- Theorem `mem_chosen_iff`: which places are chosen.
- Theorem `select_by_rank`: which throws are kept.
-/

namespace DiceRoller

/-- In a list in strict order an element is among the first `n` when fewer than `n` elements go
before it. -/
theorem mem_take_iff_countP_lt {α : Type} {before : α → α → Bool} {x : α} {xs : List α}
    (hsorted : xs.Pairwise fun a b => before a b = true ∧ before b a = false)
    (hirrefl : before x x = false) (hx : x ∈ xs) (n : Nat) :
    x ∈ xs.take n ↔ xs.countP (fun y => before y x) < n := by
  induction xs generalizing n with
  | nil => cases hx
  | cons a xs ih =>
    rcases List.pairwise_cons.1 hsorted with ⟨hhead, htail⟩
    rcases List.mem_cons.1 hx with rfl | hmem
    · -- Nothing goes before the first element.
      have hnone : xs.countP (fun y => before y x) = 0 := by
        rw [List.countP_eq_zero]
        intro y hy
        rw [(hhead y hy).2]
        exact Bool.false_ne_true
      rw [List.countP_cons_of_neg (by simp [hirrefl]), hnone]
      cases n with
      | zero => simp
      | succ n => simp
    · have hbefore := (hhead x hmem).1
      have hne : x ≠ a := by
        rintro rfl
        rw [hirrefl] at hbefore
        cases hbefore
      rw [List.countP_cons, if_pos hbefore]
      cases n with
      | zero => simp
      | succ n =>
        rw [List.take_succ_cons, List.mem_cons, or_iff_right hne, ih htail hmem,
          Nat.add_lt_add_iff_right]

namespace Keep

variable {keep : Keep} {values : List UInt64}

/-! ## Who is ahead of whom -/

/-- The places that are ahead of a place: those at which a better value was thrown, and those at
which the same value was thrown earlier. -/
def ahead (keep : Keep) (values : List UInt64) (i : Fin values.length) :
    Finset (Fin values.length) :=
  match keep with
  | high _ => {j | values.get i < values.get j ∨ values.get j = values.get i ∧ j < i}
  | low _ => {j | values.get j < values.get i ∨ values.get j = values.get i ∧ j < i}

/-- Whether a throw goes before another one that is not the same. -/
def beats (keep : Keep) (a b : UInt64 × Nat) : Bool :=
  keep.goesBefore a b && !keep.goesBefore b a

/-- Each throw of the ranking beats those behind it, and is beaten by none of them. -/
theorem pairwise_beats (keep : Keep) (values : List UInt64) :
    (keep.ranking values).Pairwise fun a b => keep.beats a b = true ∧ keep.beats b a = false := by
  have hdistinct := nodup_ranking keep values
  apply (List.pairwise_and_iff.2 ⟨pairwise_ranking keep values, hdistinct⟩).imp
  rintro a b ⟨hbefore, hne⟩
  have hnot : keep.goesBefore b a = false := by
    rw [Bool.eq_false_iff]
    exact fun hback => hne (goesBefore_antisymm hbefore hback)
  simp [beats, hbefore, hnot]

/-- The throws that beat a throw are those at the places ahead of its place. -/
theorem beats_iff_mem_ahead (i j : Fin values.length) :
    keep.beats (values.get j, j) (values.get i, i) = true ↔ j ∈ keep.ahead values i := by
  cases keep <;>
    simp only [beats, goesBefore, ahead, Bool.and_eq_true, Bool.or_eq_true, decide_eq_true_eq,
      beq_iff_eq, Finset.mem_filter, Finset.mem_univ, true_and, Bool.not_eq_true',
      Bool.or_eq_false_iff, Bool.and_eq_false_iff, decide_eq_false_iff_not, beq_eq_false_iff_ne] <;>
    grind

theorem zipIdx_eq_map_finRange (values : List UInt64) :
    values.zipIdx = (List.finRange values.length).map fun j => (values.get j, j.val) := by
  apply List.ext_getElem
  · simp
  · intro k hk hk'
    simp

/-- As many places are ahead of a place as there are throws that beat its throw. -/
theorem card_ahead (i : Fin values.length) :
    (keep.ahead values i).card = values.zipIdx.countP fun a => keep.beats a (values.get i, i.val) := by
  rw [zipIdx_eq_map_finRange, List.countP_map]
  have hahead : keep.ahead values i =
      Finset.univ.filter fun j => keep.beats (values.get j, j.val) (values.get i, i.val) = true := by
    ext j
    rw [Finset.mem_filter, beats_iff_mem_ahead, and_iff_right (Finset.mem_univ j)]
  rw [hahead, Finset.card, Finset.filter_val, Fin.univ_def, Multiset.filter_coe, Multiset.coe_card,
    List.countP_eq_length_filter]
  simp [Function.comp_def]

/-- A place is chosen when fewer places than the rule keeps are ahead of it. -/
theorem mem_chosen_iff (i : Fin values.length) :
    i.val ∈ keep.chosen values ↔ (keep.ahead values i).card < keep.count.toNat := by
  have hthrow : (values.get i, i.val) ∈ values.zipIdx := by
    rw [List.mk_mem_zipIdx_iff_getElem?]
    exact List.getElem?_eq_getElem i.isLt
  have hchosen : (values.get i, i.val) ∈ (keep.ranking values).take keep.count.toNat ↔
      i.val ∈ keep.chosen values := by
    rw [← (filter_chosen_perm keep values).mem_iff, List.mem_filter, decide_eq_true_iff,
      and_iff_right hthrow]
  have hranked := (ranking_perm keep values).mem_iff.2 hthrow
  rw [← hchosen, card_ahead, ← (ranking_perm keep values).countP_eq]
  exact mem_take_iff_countP_lt (pairwise_beats keep values) (by simp [beats]) hranked _

/-! ## Which throws are kept -/

/-- The flags, by the number of places ahead. -/
theorem select_eq_ofFn (keep : Keep) (values : List UInt64) :
    keep.select values =
      List.ofFn fun i => decide ((keep.ahead values i).card < keep.count.toNat) := by
  rw [select_eq_map]
  apply List.ext_getElem
  · simp
  · intro k hk hk'
    have hlt : k < values.length := by simpa using hk
    rw [List.getElem_map, List.getElem_range, List.getElem_ofFn]
    exact decide_eq_decide.2 (mem_chosen_iff ⟨k, hlt⟩)

/-- A place has its flag set when it is one of the roll and fewer places than the rule keeps are
ahead of it. -/
theorem getElem?_select_eq_some_true_iff {k : Nat} :
    (keep.select values)[k]? = some true ↔
      ∃ h : k < values.length, (keep.ahead values ⟨k, h⟩).card < keep.count.toNat := by
  rw [select_eq_ofFn, List.getElem?_ofFn]
  by_cases h : k < values.length
  · simp [h]
  · simp [h]

/-- What one rule keeps, a rule that keeps more throws of the same end keeps as well. -/
theorem kept_of_count_le {keep' : Keep} {k : Nat}
    (hahead : keep.ahead values = keep'.ahead values) (hle : keep.count ≤ keep'.count)
    (h : (keep.select values)[k]? = some true) : (keep'.select values)[k]? = some true := by
  rw [getElem?_select_eq_some_true_iff] at h ⊢
  rcases h with ⟨hlt, hcard⟩
  rw [hahead] at hcard
  exact ⟨hlt, Nat.lt_of_lt_of_le hcard (UInt64.le_iff_toNat_le.1 hle)⟩

/-- The throws are kept by rank, and of equal throws the earlier ones first.  There is a flag for
each throw; it is set when fewer throws than are to be kept are better, or equal and earlier.  So a
rule keeps as many throws as it says, or all of them when there are fewer, and to keep more of them
means to keep the same ones and others. -/
theorem select_by_rank (values : List UInt64) (n : UInt64) :
    (high n).select values = List.ofFn (fun i : Fin values.length =>
      decide (({j | values[i] < values[j] ∨ values[j] = values[i] ∧ j < i} :
        Finset (Fin values.length)).card < n.toNat)) ∧
    (low n).select values = List.ofFn (fun i : Fin values.length =>
      decide (({j | values[j] < values[i] ∨ values[j] = values[i] ∧ j < i} :
        Finset (Fin values.length)).card < n.toNat)) ∧
    ((high n).select values).count true = min n.toNat values.length ∧
    ((low n).select values).count true = min n.toNat values.length ∧
    ∀ m : UInt64, n ≤ m → ∀ k : Nat,
      (((high n).select values)[k]? = some true → ((high m).select values)[k]? = some true) ∧
      (((low n).select values)[k]? = some true → ((low m).select values)[k]? = some true) := by
  refine ⟨select_eq_ofFn _ _, select_eq_ofFn _ _, count_true_select _ _, count_true_select _ _, ?_⟩
  intro m hle k
  constructor
  · exact kept_of_count_le rfl hle
  · exact kept_of_count_le rfl hle

end Keep
end DiceRoller
