/-!
# Words in any case

Matching of a word at the start of a text when case does not matter.  Letters are compared by simple
case folding; among the characters that fold to an ASCII letter are the long s and the Kelvin sign.
-/

namespace DiceRoller
namespace Text

/-- The case folding of a character, as far as it leads to ASCII. -/
def foldCase (c : Char) : Char :=
  if c = '\u017F' then 's'
  else if c = '\u212A' then 'k'
  else c.toLower

/-- Takes a word off the start of a text, whatever its case there; the word is given folded.  The
result is the word as it is written, and the rest. -/
def takeCaseless : List Char → List Char → Option (List Char × List Char)
  | [], cs => some ([], cs)
  | _ :: _, [] => none
  | letter :: letters, c :: cs =>
    if foldCase c = letter then
      (takeCaseless letters cs).map fun taken => (c :: taken.1, taken.2)
    else none

/-- The word as written and the rest make up the text. -/
theorem takeCaseless_append {word cs front back : List Char}
    (h : takeCaseless word cs = some (front, back)) : front ++ back = cs := by
  induction word generalizing cs front back with
  | nil =>
    simp only [takeCaseless, Option.some.injEq, Prod.mk.injEq] at h
    rw [← h.1, ← h.2, List.nil_append]
  | cons letter letters ih =>
    cases cs with
    | nil => simp [takeCaseless] at h
    | cons c cs =>
      rw [takeCaseless] at h
      split at h
      · obtain ⟨⟨front', back'⟩, htaken, heq⟩ := Option.map_eq_some_iff.1 h
        simp only [Prod.mk.injEq] at heq
        rw [← heq.1, ← heq.2, List.cons_append, ih htaken]
      · simp at h

/-- The word as written is the word, folded. -/
theorem map_foldCase_of_takeCaseless {word cs front back : List Char}
    (h : takeCaseless word cs = some (front, back)) : front.map foldCase = word := by
  induction word generalizing cs front back with
  | nil =>
    simp only [takeCaseless, Option.some.injEq, Prod.mk.injEq] at h
    rw [← h.1, List.map_nil]
  | cons letter letters ih =>
    cases cs with
    | nil => simp [takeCaseless] at h
    | cons c cs =>
      rw [takeCaseless] at h
      split at h
      · rename_i hfold
        obtain ⟨⟨front', back'⟩, htaken, heq⟩ := Option.map_eq_some_iff.1 h
        simp only [Prod.mk.injEq] at heq
        rw [← heq.1, List.map_cons, hfold, ih htaken]
      · simp at h

end Text
end DiceRoller
