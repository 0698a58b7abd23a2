import Mathlib.Data.List.TakeWhile
import Mathlib.Tactic.IntervalCases
import DiceRoller.Text.Blank
import DiceRoller.Text.Caseless
import DiceRoller.Text.DecimalDigit
import DiceRoller.Text.Lowercase
import DiceRoller.Text.WordChar

/-!
# How the classes of characters lie to each other

Digits and letters belong to words, blanks do not, case folding leads to a letter from letters only,
and lower case leads into ASCII where case folding does.

Main results:

- Theorem `isWordChar_of_isDecimalDigit`: the decimal digits of every script belong to words.
- Theorem `isWordChar_of_isBlank`: no blank belongs to a word.
- Theorems `isWordChar_of_foldCase` and `eq_of_foldCase_eq`: what folds to an ASCII letter belongs to
  words, and everything else that folds to an ASCII character is that character.
- Theorem `foldCase_of_mem_lowercase`: lower case against case folding.
-/

namespace DiceRoller
namespace Text

/-! ## Tables of ranges -/

/-- Whether every range of the first table lies inside a range of the second; both are ascending, so
one pass over the second table is enough. -/
def rangesWithin (xs ys : List (Nat × Nat)) : Bool :=
  (ys.foldl (fun left y => left.dropWhile fun x => y.1 ≤ x.1 && x.2 ≤ y.2) xs).isEmpty

/-- What it means that a table lies inside another. -/
theorem exists_range_of_rangesWithin {xs ys : List (Nat × Nat)}
    (h : rangesWithin xs ys = true) : ∀ x ∈ xs, ∃ y ∈ ys, y.1 ≤ x.1 ∧ x.2 ≤ y.2 := by
  intro x hx
  induction ys generalizing xs with
  | nil =>
    have hnil : xs = [] := List.isEmpty_iff.1 h
    rw [hnil] at hx
    cases hx
  | cons y ys ih =>
    rw [← List.takeWhile_append_dropWhile (p := fun x => y.1 ≤ x.1 && x.2 ≤ y.2) (l := xs),
      List.mem_append] at hx
    rcases hx with hx | hx
    · have hinside := List.mem_takeWhile_imp hx
      exact ⟨y, List.mem_cons_self, by simpa using hinside⟩
    · obtain ⟨z, hz, hinside⟩ := ih h hx
      exact ⟨z, List.mem_cons_of_mem y hz, hinside⟩

/-- So do its code points. -/
theorem inRanges_of_rangesWithin {xs ys : List (Nat × Nat)} {n : Nat}
    (hwithin : rangesWithin xs ys = true) (h : inRanges xs n = true) : inRanges ys n = true := by
  rw [inRanges_iff] at h ⊢
  obtain ⟨x, hx, hlow, hhigh⟩ := h
  obtain ⟨y, hy, hylow, hyhigh⟩ := exists_range_of_rangesWithin hwithin x hx
  exact ⟨y, hy, hylow.trans hlow, hhigh.trans hyhigh⟩

/-! ## Letters and digits -/

/-- ASCII letters and digits are ASCII. -/
theorem toNat_lt_of_isAlphanum {c : Char} (h : c.isAlphanum = true) : c.toNat < 128 := by
  delta Char.isAlphanum Char.isAlpha Char.isUpper Char.isLower Char.isDigit at h
  simp only [Bool.or_eq_true, Bool.and_eq_true, decide_eq_true_eq, ge_iff_le,
    UInt32.le_iff_toNat_le] at h
  change (((65 ≤ c.toNat ∧ c.toNat ≤ 90) ∨ (97 ≤ c.toNat ∧ c.toNat ≤ 122)) ∨
    (48 ≤ c.toNat ∧ c.toNat ≤ 57)) at h
  omega

/-- They belong to words. -/
theorem isWordChar_of_isAlphanum {c : Char} (h : c.isAlphanum = true) : isWordChar c = true := by
  simp [isWordChar, toNat_lt_of_isAlphanum h, h]

/-- So do the letters among them. -/
theorem isWordChar_of_isAlpha {c : Char} (h : c.isAlpha = true) : isWordChar c = true :=
  isWordChar_of_isAlphanum (by simp [Char.isAlphanum, h])

/-- So do the digits among them. -/
theorem isWordChar_of_isDigit {c : Char} (h : c.isDigit = true) : isWordChar c = true :=
  isWordChar_of_isAlphanum (by simp [Char.isAlphanum, h])

/-- A decimal digit below 128 is an ASCII digit. -/
theorem isDigit_of_isDecimalDigit {c : Char} (h : isDecimalDigit c = true) (hlt : c.toNat < 128) :
    c.isDigit = true := by
  rcases Bool.or_eq_true_iff.1 h with hdigit | hranges
  · exact hdigit
  · obtain ⟨range, hrange, hlow, hhigh⟩ := inRanges_iff.1 hranges
    have hfirst : ∀ range ∈ decimalDigitRanges, range = (0x30, 0x39) ∨ 128 ≤ range.1 := by
      decide
    rcases hfirst range hrange with rfl | hge
    · exact Char.isDigit_iff_toNat.2 ⟨hlow, hhigh⟩
    · omega

/-- The decimal digits of every script belong to words. -/
theorem isWordChar_of_isDecimalDigit {c : Char} (h : isDecimalDigit c = true) :
    isWordChar c = true := by
  by_cases hlt : c.toNat < 128
  · exact isWordChar_of_isDigit (isDigit_of_isDecimalDigit h hlt)
  · have hranges : inRanges decimalDigitRanges c.toNat = true := by
      rcases Bool.or_eq_true_iff.1 h with hdigit | hranges
      · exact absurd (toNat_lt_of_isAlphanum (by simp [Char.isAlphanum, hdigit])) hlt
      · exact hranges
    have hwithin : rangesWithin decimalDigitRanges ((0x30, 0x39) :: wordRanges) = true := by
      decide +kernel
    have hword := inRanges_of_rangesWithin hwithin hranges
    rw [isWordChar, if_neg hlt]
    rcases Bool.or_eq_true_iff.1 hword with hascii | hword
    · simp only [Bool.and_eq_true, decide_eq_true_eq] at hascii
      omega
    · exact hword

/-! ## Blanks -/

/-- No blank belongs to a word. -/
theorem isWordChar_of_isBlank {c : Char} (h : isBlank c = true) : isWordChar c = false := by
  obtain ⟨range, hrange, hlow, hhigh⟩ := inRanges_iff.1 h
  rw [← Char.ofNat_toNat c]
  generalize c.toNat = n at hlow hhigh
  simp only [blankRanges, List.mem_cons, List.not_mem_nil, or_false] at hrange
  rcases hrange with rfl | rfl | rfl | rfl | rfl | rfl | rfl | rfl | rfl | rfl <;>
    simp only at hlow hhigh <;> interval_cases n <;> decide +kernel

/-- What belongs to a word is no blank. -/
theorem isBlank_of_isWordChar {c : Char} (h : isWordChar c = true) : isBlank c = false := by
  rw [Bool.eq_false_iff]
  intro hblank
  rw [isWordChar_of_isBlank hblank] at h
  cases h

/-! ## Case folding -/

/-- Lowering the case leads to a letter from letters only. -/
theorem isAlpha_of_isAlpha_toLower {c : Char} (h : c.toLower.isAlpha = true) :
    c.isAlpha = true := by
  by_cases hupper : c.val ≥ 'A'.val ∧ c.val ≤ 'Z'.val
  · have hisUpper : c.isUpper = true := by
      delta Char.isUpper
      simpa using hupper
    exact Bool.or_eq_true_iff.2 (Or.inl hisUpper)
  · have hlower : c.toLower = c := dif_neg hupper
    rwa [hlower] at h

/-- The capitals of ASCII, and where lowering the case leads from them. -/
theorem toNat_toLower {c : Char} (h : c.val ≥ 'A'.val ∧ c.val ≤ 'Z'.val) :
    65 ≤ c.toNat ∧ c.toNat ≤ 90 ∧ c.toLower.toNat = c.toNat + 32 := by
  have hlow := UInt32.le_iff_toNat_le.1 h.1
  have hhigh := UInt32.le_iff_toNat_le.1 h.2
  simp only [Char.reduceVal, UInt32.reduceToNat, Char.toNat_val] at hlow hhigh
  have hlower : c.toLower.val = c.val + ('a'.val - 'A'.val) := congrArg Char.val (dif_pos h)
  refine ⟨hlow, hhigh, ?_⟩
  rw [← Char.toNat_val, hlower]
  simp only [UInt32.toNat_add, Char.reduceVal, UInt32.reduceToNat, UInt32.reduceSub, Char.toNat_val]
  omega

/-- Lowering the case changes letters only. -/
theorem toLower_eq_or_isAlpha (c : Char) : c.toLower = c ∨ c.toLower.isAlpha = true := by
  by_cases hupper : c.val ≥ 'A'.val ∧ c.val ≤ 'Z'.val
  · right
    rcases toNat_toLower hupper with ⟨hlow, hhigh, hlower⟩
    refine Bool.or_eq_true_iff.2 (Or.inr ?_)
    show (decide (c.toLower.val ≥ 'a'.val) && decide (c.toLower.val ≤ 'z'.val)) = true
    simp only [Bool.and_eq_true, decide_eq_true_eq, ge_iff_le, UInt32.le_iff_toNat_le,
      Char.reduceVal, UInt32.reduceToNat, Char.toNat_val]
    omega
  · left
    exact dif_neg hupper

/-- Lower case has no lower case of its own. -/
theorem toLower_toLower (c : Char) : c.toLower.toLower = c.toLower := by
  by_cases hupper : c.val ≥ 'A'.val ∧ c.val ≤ 'Z'.val
  · rcases toNat_toLower hupper with ⟨hlow, -, hlower⟩
    apply dif_neg
    rintro ⟨-, hle⟩
    have hhigh := UInt32.le_iff_toNat_le.1 hle
    simp only [Char.reduceVal, UInt32.reduceToNat, Char.toNat_val] at hhigh
    omega
  · have hlower : c.toLower = c := dif_neg hupper
    rw [hlower, hlower]

/-- A folded character is in lower case. -/
theorem toLower_foldCase (c : Char) : (foldCase c).toLower = foldCase c := by
  unfold foldCase
  split
  · decide
  · split
    · decide
    · exact toLower_toLower c

/-- What folds to an ASCII letter belongs to words. -/
theorem isWordChar_of_foldCase {c : Char} (h : (foldCase c).isAlpha = true) :
    isWordChar c = true := by
  unfold foldCase at h
  split at h
  · rename_i hc
    rw [hc]
    decide +kernel
  · split at h
    · rename_i hc
      rw [hc]
      decide +kernel
    · exact isWordChar_of_isAlpha (isAlpha_of_isAlpha_toLower h)

/-- What folds to a character that is no letter is that character. -/
theorem eq_of_foldCase_eq {c d : Char} (h : foldCase c = d) (hd : d.isAlpha = false) : c = d := by
  unfold foldCase at h
  split at h
  · subst h
    simp at hd
  · split at h
    · subst h
      simp at hd
    · rcases toLower_eq_or_isAlpha c with heq | halpha
      · rw [← heq, h]
      · rw [h, hd] at halpha
        cases halpha

/-- No letter is a decimal digit. -/
theorem isDecimalDigit_of_isAlpha {c : Char} (h : c.isAlpha = true) : isDecimalDigit c = false := by
  by_contra hdigit
  have hlt : c.toNat < 128 := toNat_lt_of_isAlphanum (by simp [Char.isAlphanum, h])
  have hisDigit := isDigit_of_isDecimalDigit (by simpa using hdigit) hlt
  have hrange : 48 ≤ c.toNat ∧ c.toNat ≤ 57 := Char.isDigit_iff_toNat.1 hisDigit
  delta Char.isAlpha Char.isUpper Char.isLower at h
  simp only [Bool.or_eq_true, Bool.and_eq_true, decide_eq_true_eq, ge_iff_le,
    UInt32.le_iff_toNat_le] at h
  change ((65 ≤ c.toNat ∧ c.toNat ≤ 90) ∨ (97 ≤ c.toNat ∧ c.toNat ≤ 122)) at h
  omega

/-- No decimal digit folds to a letter. -/
theorem isAlpha_foldCase_of_isDecimalDigit {c : Char} (h : isDecimalDigit c = true) :
    (foldCase c).isAlpha = false := by
  by_contra halpha
  unfold foldCase at halpha
  split at halpha
  · rename_i hc
    rw [hc] at h
    revert h
    decide +kernel
  · split at halpha
    · rename_i hc
      rw [hc] at h
      revert h
      decide +kernel
    · have hletter := isAlpha_of_isAlpha_toLower (by simpa using halpha)
      rw [isDecimalDigit_of_isAlpha hletter] at h
      cases h

/-! ## Lower case -/

/-- A code point that is a character is that of its character. -/
theorem toNat_ofNat_of_isValidChar {n : Nat} (h : n.isValidChar) : (Char.ofNat n).toNat = n := by
  rw [Char.ofNat, dif_pos h]
  rfl

/-- The lower case of the capitals in a run lies beyond ASCII, except for that of the Kelvin sign. -/
theorem image_of_mem_caseRuns {run : CaseRun} (h : run ∈ caseRuns) :
    run = ⟨0x212A, 0x212A, 1, 0x6B⟩ ∨
      128 ≤ run.image ∧ (run.image + (run.last - run.first) < 0xD800 ∨
        0xDFFF < run.image ∧ run.image + (run.last - run.first) < 0x110000) := by
  have hall : (caseRuns.all fun run =>
      (run.first == 0x212A && run.last == 0x212A && run.step == 1 && run.image == 0x6B) ||
        128 ≤ run.image && (run.image + (run.last - run.first) < 0xD800 ||
          0xDFFF < run.image && run.image + (run.last - run.first) < 0x110000)) = true := by
    decide +kernel
  have hrun := List.all_eq_true.1 hall run h
  rcases run with ⟨first, last, step, image⟩
  simpa [and_assoc] using hrun

/-- A character beyond ASCII keeps beyond ASCII in lower case, except for the Kelvin sign. -/
theorem eq_kelvin_of_lowerCodePoint {c : Char} (h : (Char.ofNat (lowerCodePoint c.toNat)).toNat < 128)
    (hc : 128 ≤ c.toNat) : c = '\u212A' := by
  unfold lowerCodePoint at h
  split at h
  · rename_i run hrun
    have hcovers := List.find?_some hrun
    simp only [CaseRun.covers, Bool.and_eq_true, decide_eq_true_eq] at hcovers
    rcases image_of_mem_caseRuns (List.mem_of_find?_eq_some hrun) with rfl | ⟨hlow, hvalid⟩
    · have hn : c.toNat = 0x212A := Nat.le_antisymm hcovers.1.2 hcovers.1.1
      rw [← Char.ofNat_toNat c, hn]
    · rw [toNat_ofNat_of_isValidChar] at h
      · omega
      · rcases hvalid with hbelow | habove
        · left
          omega
        · right
          omega
  · rw [Char.ofNat_toNat] at h
    omega

/-- What the lower case of a character shares with ASCII is its folding, except for the dotted capital
I. -/
theorem foldCase_of_mem_lowercase {c d : Char} (h : d ∈ lowercase c) (hd : d.toNat < 128) :
    c = '\u0130' ∨ foldCase c = d := by
  unfold lowercase at h
  split at h
  · rename_i hascii
    right
    rw [foldCase, if_neg, if_neg, List.mem_singleton.1 h]
    · rintro rfl
      revert hascii
      decide
    · rintro rfl
      revert hascii
      decide
  · rename_i hbeyond
    split at h
    · left
      assumption
    · right
      rw [List.mem_singleton] at h
      rw [h] at hd ⊢
      rw [eq_kelvin_of_lowerCodePoint hd (by omega)]
      decide +kernel

end Text
end DiceRoller
