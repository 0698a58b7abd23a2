/-!
# Similarity of words

The Jaro similarity of two words counts the characters that they share at nearly the same place.  It
lies between zero and one, and is a binary floating point number: three shares are added and divided
by three, in this order, so that a similarity at a limit falls on the same side of it everywhere.

Main results:

- Theorem `length_commonChars_le`: two words share at most the characters of the first one.
- Theorem `jaro_nil_cons`: nothing is similar to the empty word but the empty word.
-/

namespace DiceRoller
namespace Text

/-- The first place from `place` on that holds a character, is within the bounds and is not taken. -/
def freePlace? (c : Char) (low high : Nat) (taken : List Nat) (place : Nat) :
    List Char → Option Nat
  | [] => none
  | d :: ds =>
    if c = d ∧ low ≤ place ∧ place ≤ high ∧ place ∉ taken then some place
    else freePlace? c low high taken (place + 1) ds

/-- The characters of the first word that the second one has too, each with its place there.  A place
may be off by the given distance and is taken once. -/
def commonChars (distance : Nat) (other : List Char) (taken : List Nat) (place : Nat) :
    List Char → List (Char × Nat)
  | [] => []
  | c :: cs =>
    match freePlace? c (place - distance) (place + distance) taken 0 other with
    | some found => (c, found) :: commonChars distance other (found :: taken) (place + 1) cs
    | none => commonChars distance other taken (place + 1) cs

/-- The characters of a word at some places, in the order of the word. -/
def charsAt (places : List Nat) (word : List Char) : List Char :=
  (word.zipIdx.filter fun placed => places.contains placed.2).map Prod.fst

/-- At how many places two words differ, as far as the shorter one goes. -/
def countDifferences (xs ys : List Char) : Nat :=
  (xs.zip ys).countP fun pair => pair.1 != pair.2

/-- The distance by which a shared character may be off. -/
def reach (xs ys : List Char) : Nat :=
  max xs.length ys.length / 2 - 1

/-- The similarity of two words: the mean of the shared part of the first word, the shared part of the
second word, and the part of the shared characters that come in the same order in both.  Two characters
in each other's place count as one that does not. -/
def jaro (xs ys : List Char) : Float :=
  if xs.isEmpty && ys.isEmpty then 1
  else
    let common := commonChars (reach xs ys) ys [] 0 xs
    let swapped := countDifferences (common.map Prod.fst) (charsAt (common.map Prod.snd) ys) / 2
    let shared := common.length
    if shared = 0 then 0
    else
      (shared.toFloat / xs.length.toFloat + shared.toFloat / ys.length.toFloat +
        (shared - swapped).toFloat / shared.toFloat) / 3

/-- Two words share at most the characters of the first one. -/
theorem length_commonChars_le (distance : Nat) (other : List Char) (taken : List Nat) (place : Nat)
    (word : List Char) : (commonChars distance other taken place word).length ≤ word.length := by
  induction word generalizing taken place with
  | nil => simp [commonChars]
  | cons c cs ih =>
    rw [commonChars]
    split
    · exact Nat.succ_le_succ (ih _ _)
    · exact Nat.le_succ_of_le (ih _ _)

/-- Nothing is similar to the empty word but the empty word. -/
theorem jaro_nil_cons (c : Char) (cs : List Char) : jaro [] (c :: cs) = 0 := by
  simp [jaro, commonChars]

example : 0.7 < jaro "hist".toList "history-file".toList := by decide +kernel

example : 0.7 < jaro "debxyz".toList "debug".toList := by decide +kernel

example : ¬0.7 < jaro "nope".toList "help".toList := by decide +kernel

end Text
end DiceRoller
