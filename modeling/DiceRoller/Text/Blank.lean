import DiceRoller.Text.CodeRange

/-!
# Blanks

White space in the sense of the Unicode property White_Space: 25 characters, among them the
no-break spaces and the ideographic space, but not the zero width ones.

Main results:

- Theorem `isBlank_of_isWhitespace`: the property extends the four characters that count as white
  space in source text.
- Theorems `trimEnd_eq_nil_iff` and `trimEnd_append_singleton`: trimming empties the texts of blanks
  only, and stops at the last character that is no blank.
-/

namespace DiceRoller
namespace Text

/-- Code points of the blanks. -/
def blankRanges : List (Nat × Nat) :=
  [(0x09, 0x0D), (0x20, 0x20), (0x85, 0x85), (0xA0, 0xA0), (0x1680, 0x1680), (0x2000, 0x200A),
   (0x2028, 0x2029), (0x202F, 0x202F), (0x205F, 0x205F), (0x3000, 0x3000)]

/-- Whether a character is a blank. -/
def isBlank (c : Char) : Bool :=
  inRanges blankRanges c.toNat

theorem isBlank_of_isWhitespace {c : Char} (h : c.isWhitespace = true) : isBlank c = true := by
  simp [Char.isWhitespace] at h
  rcases h with ((h | h) | h) | h <;> subst h <;> decide

/-- The text without its blanks. -/
def dropBlanks (cs : List Char) : List Char :=
  cs.filter fun c => !isBlank c

/-- The text without blanks at its start. -/
def trimStart (cs : List Char) : List Char :=
  cs.dropWhile isBlank

/-- The text without blanks at its end. -/
def trimEnd : List Char → List Char
  | [] => []
  | c :: cs =>
    match trimEnd cs with
    | [] => if isBlank c then [] else [c]
    | kept => c :: kept

/-- The text without blanks at its two ends. -/
def trim (cs : List Char) : List Char :=
  trimEnd (trimStart cs)

/-- Cuts a text at its first blank into what stands before it and what stands after it. -/
def splitAtBlank (cs : List Char) : Option (List Char × List Char) :=
  match cs.dropWhile fun c => !isBlank c with
  | [] => none
  | _ :: after => some (cs.takeWhile fun c => !isBlank c, after)

/-- Whether every character is a blank; so for the empty text. -/
def isAllBlank (cs : List Char) : Bool :=
  cs.all isBlank

@[simp]
theorem trimEnd_nil : trimEnd [] = [] :=
  rfl

/-- Trimming the end empties exactly the texts of blanks. -/
theorem trimEnd_eq_nil_iff {cs : List Char} : trimEnd cs = [] ↔ isAllBlank cs = true := by
  induction cs with
  | nil => simp [isAllBlank]
  | cons c cs ih =>
    rw [trimEnd]
    split
    · rename_i h
      have hcs := ih.1 h
      cases hc : isBlank c <;> simp_all [isAllBlank]
    · rename_i h
      have hcs : isAllBlank cs ≠ true := fun hall => h (ih.2 hall)
      simp_all [isAllBlank]

/-- A text whose last character is no blank keeps its end. -/
theorem trimEnd_append_singleton {cs : List Char} {c : Char} (h : isBlank c = false) :
    trimEnd (cs ++ [c]) = cs ++ [c] := by
  induction cs with
  | nil => simp [trimEnd, h]
  | cons d cs ih =>
    rw [List.cons_append, trimEnd, ih]
    cases cs <;> rfl

/-- Trimming the end leaves a beginning of the text. -/
theorem prefix_trimEnd (cs : List Char) : trimEnd cs <+: cs := by
  induction cs with
  | nil => exact List.prefix_rfl
  | cons c cs ih =>
    rw [trimEnd]
    split
    · split
      · exact List.nil_prefix
      · exact List.cons_prefix_cons.2 ⟨rfl, List.nil_prefix⟩
    · exact List.cons_prefix_cons.2 ⟨rfl, ih⟩

/-- Trimming adds no characters. -/
theorem trim_subset (cs : List Char) : trim cs ⊆ cs := by
  intro c hc
  exact (List.dropWhile_sublist isBlank).subset ((prefix_trimEnd (trimStart cs)).subset hc)

end Text
end DiceRoller
