/-!
# Lines

A text as lines.  A line ends with a line feed, or with a carriage return and a line feed; the last
line may lack its end.

Main results:

- Theorem `lines_line`: a line with its end in front of a text is the first line.
- Theorem `lines_flatMap_end`: lines that are written one after the other are read back.
-/

namespace DiceRoller
namespace Text

/-- Puts a character at the start of the first line. -/
def consLine (c : Char) : List (List Char) → List (List Char)
  | [] => [[c]]
  | line :: others => (c :: line) :: others

/-- The lines of a text, without their ends. -/
def lines : List Char → List (List Char)
  | [] => []
  | '\n' :: cs => [] :: lines cs
  | '\r' :: '\n' :: cs => [] :: lines cs
  | c :: cs => consLine c (lines cs)

/-- Whether a line can be written with a plain line feed as its end. -/
def isLine (line : List Char) : Bool :=
  !line.contains '\n' && !line.contains '\r'

/-- A line with its end in front of a text is the first line. -/
theorem lines_line {line : List Char} (h : isLine line = true) (cs : List Char) :
    lines (line ++ '\n' :: cs) = line :: lines cs := by
  induction line with
  | nil => rfl
  | cons c line ih =>
    have hline : isLine line = true := by
      simp only [isLine, List.contains_cons, Bool.and_eq_true, Bool.not_eq_true',
        Bool.or_eq_false_iff] at h ⊢
      exact ⟨h.1.2, h.2.2⟩
    have hn : c ≠ '\n' := by
      rintro rfl
      simp [isLine] at h
    have hr : c ≠ '\r' := by
      rintro rfl
      simp [isLine] at h
    rw [List.cons_append, lines, ih hline]
    · rfl
    · rintro rfl
      exact absurd rfl hn
    · intro rest hc
      exact absurd hc hr

/-- Lines that are written one after the other are read back. -/
theorem lines_flatMap_end {all : List (List Char)} (h : ∀ line ∈ all, isLine line = true) :
    lines (all.flatMap fun line => line ++ ['\n']) = all := by
  induction all with
  | nil => rfl
  | cons line all ih =>
    rw [List.flatMap_cons, List.append_assoc, List.singleton_append,
      lines_line (h line List.mem_cons_self),
      ih fun other hother => h other (List.mem_cons_of_mem _ hother)]

end Text
end DiceRoller
