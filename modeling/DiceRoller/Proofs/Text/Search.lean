import Mathlib.Data.List.Infix
import DiceRoller.Text.Search

/-!
# Occurrences of a literal

A search succeeds when the literal is an infix of the text, and a part of the text in which no
occurrence begins is passed over.

Main results:

- Theorems `occursIn_iff` and `through_eq_none_iff`: when a search succeeds and when it fails.
- Theorem `through_append_of_forall_not`: a search passes over what holds no beginning of the literal.
- Theorem `through_eq_some_iff`: a search ends at the first occurrence.
- Theorem `through_singleton_append`: the search for a single character.
-/

namespace DiceRoller
namespace Text

theorem occursIn_iff {literal cs : List Char} : occursIn literal cs = true ↔ literal <:+: cs := by
  unfold occursIn
  induction cs with
  | nil =>
    rw [through, List.infix_nil]
    cases literal <;> simp
  | cons c cs ih =>
    rw [through, List.infix_cons_iff]
    split
    · rename_i hbegins
      exact iff_of_true rfl (Or.inl (List.isPrefixOf_iff_prefix.1 hbegins))
    · rename_i hbegins
      rw [Option.isSome_map, ih]
      constructor
      · intro h
        exact Or.inr h
      · intro h
        rcases h with h | h
        · exact absurd (List.isPrefixOf_iff_prefix.2 h) hbegins
        · exact h

theorem through_eq_none_iff {literal cs : List Char} :
    through literal cs = none ↔ ¬ literal <:+: cs := by
  rw [← occursIn_iff, occursIn, Option.not_isSome_iff_eq_none]

/-- A search passes over a text at whose places the literal does not begin. -/
theorem through_append_of_forall_not {literal cs rest : List Char}
    (h : ∀ front back, cs = front ++ back → back ≠ [] → ¬ literal <+: back ++ rest) :
    through literal (cs ++ rest) =
      (through literal rest).map fun found => (cs ++ found.1, found.2) := by
  induction cs with
  | nil => simp
  | cons c cs ih =>
    have hstart : ¬ literal.isPrefixOf (c :: (cs ++ rest)) = true := by
      rw [List.isPrefixOf_iff_prefix]
      exact h [] (c :: cs) rfl (List.cons_ne_nil c cs)
    have hothers : ∀ front back, cs = front ++ back → back ≠ [] → ¬ literal <+: back ++ rest := by
      intro front back heq
      exact h (c :: front) back (by rw [heq, List.cons_append])
    rw [List.cons_append, through, if_neg hstart, ih hothers, Option.map_map]
    rfl

theorem through_literal_append {literal : List Char} (hne : literal ≠ []) (rest : List Char) :
    through literal (literal ++ rest) = some (literal, rest) := by
  cases literal with
  | nil => exact absurd rfl hne
  | cons c cs =>
    have hbegins : (c :: cs).isPrefixOf (c :: (cs ++ rest)) = true :=
      List.isPrefixOf_iff_prefix.2 (List.prefix_append (c :: cs) rest)
    rw [List.cons_append, through, if_pos hbegins, ← List.cons_append, List.take_left,
      List.drop_left]

theorem through_eq_some_iff {literal cs front back : List Char} (hne : literal ≠ []) :
    through literal cs = some (front, back) ↔
      ∃ passed, front = passed ++ literal ∧ cs = front ++ back ∧
        ∀ xs ys, passed = xs ++ ys → ys ≠ [] → ¬ literal <+: ys ++ literal := by
  have hbegins : ∀ ys rest, literal <+: ys ++ (literal ++ rest) → literal <+: ys ++ literal := by
    intro ys rest h
    rw [← List.append_assoc] at h
    apply List.prefix_of_prefix_length_le h (List.prefix_append _ _)
    rw [List.length_append]
    exact Nat.le_add_left _ _
  constructor
  · intro h
    have hcs := (through_append h).symm
    induction cs generalizing front with
    | nil =>
      rw [through, if_neg (by simp [hne])] at h
      cases h
    | cons c cs ih =>
      rw [through] at h
      split at h
      · rename_i hstart
        cases h
        rcases List.isPrefixOf_iff_prefix.1 hstart with ⟨rest, hrest⟩
        refine ⟨[], ?_, hcs, ?_⟩
        · rw [← hrest, List.take_left, List.nil_append]
        · intro xs ys heq hys
          exact absurd (List.nil_eq_append_iff.1 heq).2 hys
      · rename_i hstart
        rcases Option.map_eq_some_iff.1 h with ⟨⟨front', back'⟩, hfound, heq⟩
        cases heq
        have hrest : cs = front' ++ back' := (List.cons.inj hcs).2
        rcases ih hfound hrest with ⟨passed, rfl, -, hpassed⟩
        refine ⟨c :: passed, rfl, hcs, ?_⟩
        intro xs ys heq hys
        cases xs with
        | nil =>
          rw [List.nil_append] at heq
          rw [← heq]
          intro hbegin
          apply hstart
          rw [List.isPrefixOf_iff_prefix, hrest]
          exact hbegin.trans (List.prefix_append (c :: passed ++ literal) back')
        | cons x xs => exact hpassed xs ys (List.cons.inj heq).2 hys
  · intro h
    rcases h with ⟨passed, rfl, rfl, hpassed⟩
    rw [List.append_assoc, through_append_of_forall_not, through_literal_append hne]
    · rfl
    · intro xs ys heq hys hbegin
      exact hpassed xs ys heq hys (hbegins ys back hbegin)

/-- What was found is found again whatever the text behind it is. -/
theorem through_of_through {literal cs front back : List Char} (hne : literal ≠ [])
    (h : through literal cs = some (front, back)) (rest : List Char) :
    through literal (front ++ rest) = some (front, rest) := by
  rcases (through_eq_some_iff hne).1 h with ⟨passed, hfront, -, hpassed⟩
  exact (through_eq_some_iff hne).2 ⟨passed, hfront, rfl, hpassed⟩

/-- The search for a character ends at its first occurrence. -/
theorem through_singleton_append {c : Char} {cs : List Char} (h : c ∉ cs) (rest : List Char) :
    through [c] (cs ++ c :: rest) = some (cs ++ [c], rest) := by
  have hpass : ∀ front back, cs = front ++ back → back ≠ [] → ¬ [c] <+: back ++ c :: rest := by
    intro front back heq hne hbegins
    cases back with
    | nil => exact hne rfl
    | cons d back =>
      rw [List.cons_append, List.cons_prefix_cons] at hbegins
      apply h
      rw [heq, hbegins.1]
      exact List.mem_append_right front List.mem_cons_self
  have hfound : through [c] (c :: rest) = some ([c], rest) :=
    through_literal_append (List.cons_ne_nil c []) rest
  rw [through_append_of_forall_not hpass, hfound]
  rfl

theorem through_singleton_eq_none_iff {c : Char} {cs : List Char} :
    through [c] cs = none ↔ c ∉ cs := by
  rw [through_eq_none_iff, List.singleton_infix_iff]

end Text
end DiceRoller
