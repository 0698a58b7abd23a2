import Mathlib.Data.List.TakeWhile

/-!
# Runs of characters

The longest beginning of a text that consists of one kind of characters.

Main results:

- Theorem `takeWhile_dropWhile_eq_iff`: a cut behind such a beginning, as a condition on its parts.
- Theorem `takeRun_eq_some_iff`: the same for a beginning that must not be empty.
- Theorem `cutAt_append`: a cut at the first place of a character.
-/

namespace DiceRoller
namespace Text

/-- A text begins with a run of a kind of characters and goes on with something else. -/
theorem takeWhile_dropWhile_eq_iff {p : Char → Bool} {cs front back : List Char} :
    (cs.takeWhile p = front ∧ cs.dropWhile p = back) ↔
      cs = front ++ back ∧ (∀ c ∈ front, p c = true) ∧ ∀ c, back.head? = some c → p c = false := by
  constructor
  · rintro ⟨rfl, rfl⟩
    refine ⟨List.takeWhile_append_dropWhile.symm, fun c hc => List.mem_takeWhile_imp hc, ?_⟩
    intro c hc
    have hnot := List.head?_dropWhile_not p cs
    rw [hc] at hnot
    simpa using hnot
  · rintro ⟨rfl, hfront, hback⟩
    rw [List.takeWhile_append_of_pos hfront, List.dropWhile_append_of_pos hfront]
    cases back with
    | nil => simp
    | cons c back =>
      have hc : p c = false := hback c rfl
      simp [hc]

theorem takeWhile_dropWhile_append {p : Char → Bool} {front back : List Char}
    (hfront : ∀ c ∈ front, p c = true) (hback : ∀ c, back.head? = some c → p c = false) :
    (front ++ back).takeWhile p = front ∧ (front ++ back).dropWhile p = back :=
  takeWhile_dropWhile_eq_iff.2 ⟨rfl, hfront, hback⟩

/-- The characters of a kind at the start of a text, at least one, and the rest. -/
def takeRun (p : Char → Bool) (cs : List Char) : Option (List Char × List Char) :=
  if cs.takeWhile p = [] then none else some (cs.takeWhile p, cs.dropWhile p)

theorem takeRun_eq_some_iff {p : Char → Bool} {cs front back : List Char} :
    takeRun p cs = some (front, back) ↔
      cs = front ++ back ∧ front ≠ [] ∧ (∀ c ∈ front, p c = true) ∧
        ∀ c, back.head? = some c → p c = false := by
  have hruns : (cs.takeWhile p = front ∧ cs.dropWhile p = back) ↔ _ :=
    takeWhile_dropWhile_eq_iff
  unfold takeRun
  constructor
  · intro h
    split at h
    · cases h
    · rename_i hne
      simp only [Option.some.injEq, Prod.mk.injEq] at h
      obtain ⟨hcs, hfront, hback⟩ := hruns.1 h
      exact ⟨hcs, h.1 ▸ hne, hfront, hback⟩
  · rintro ⟨hcs, hne, hfront, hback⟩
    obtain ⟨htake, hdrop⟩ := hruns.2 ⟨hcs, hfront, hback⟩
    rw [htake, hdrop, if_neg hne]

/-- Cuts a text at the first place of a character, into what stands before it and what stands
behind. -/
def cutAt (mark : Char) (cs : List Char) : List Char × List Char :=
  (cs.takeWhile fun c => c != mark, (cs.dropWhile fun c => c != mark).tail)

theorem cutAt_append {mark : Char} {front : List Char} (h : mark ∉ front) (back : List Char) :
    cutAt mark (front ++ mark :: back) = (front, back) := by
  have hfront : ∀ c ∈ front, (c != mark) = true := by
    intro c hc
    rw [bne_iff_ne]
    rintro rfl
    exact h hc
  have hback : ∀ c, (mark :: back).head? = some c → (c != mark) = false := by
    intro c hc
    cases hc
    exact bne_self_eq_false mark
  obtain ⟨htake, hdrop⟩ := takeWhile_dropWhile_append hfront hback
  rw [cutAt, htake, hdrop, List.tail_cons]

end Text
end DiceRoller
