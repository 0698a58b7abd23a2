/-!
# Search in a text

Where a literal first occurs in a text.

Main results:

- Theorem `through_append`: a search cuts the text in two and loses nothing.
-/

namespace DiceRoller
namespace Text

/-- The text up to the end of the first occurrence of a literal, and the rest. -/
def through (literal : List Char) : List Char → Option (List Char × List Char)
  | [] => if literal.isEmpty then some ([], []) else none
  | c :: cs =>
    if literal.isPrefixOf (c :: cs) then
      some ((c :: cs).take literal.length, (c :: cs).drop literal.length)
    else (through literal cs).map fun found => (c :: found.1, found.2)

/-- Whether a literal occurs in a text. -/
def occursIn (literal cs : List Char) : Bool :=
  (through literal cs).isSome

/-- A search cuts the text in two and loses nothing. -/
theorem through_append {literal cs front back : List Char}
    (h : through literal cs = some (front, back)) : front ++ back = cs := by
  induction cs generalizing front back with
  | nil =>
    rw [through] at h
    split at h <;> simp_all
  | cons c cs ih =>
    rw [through] at h
    split at h
    · simp only [Option.some.injEq, Prod.mk.injEq] at h
      rw [← h.1, ← h.2, List.take_append_drop]
    · obtain ⟨⟨front', back'⟩, hfound, heq⟩ := Option.map_eq_some_iff.1 h
      simp only [Prod.mk.injEq] at heq
      rw [← heq.1, ← heq.2, List.cons_append, ih hfound]

end Text
end DiceRoller
