import DiceRoller.Proofs.Scan.Pieces

/-!
# Where a text may be cut

The patterns for rollable parts look at the characters next to a match: a match must not run on into a
word.  So a text may be cut at a place where no word runs over the cut.

Main results:

- Theorem `WordSeam.edge_append`: a match that ends at the edge of a word does so in a longer text.
-/

namespace DiceRoller

open Text

/-! ## Splits of a text -/

/-- A place inside the first of two texts splits that one. -/
theorem exists_of_split {front back xs ys : List Char} (h : xs ++ ys = front ++ back)
    (hlt : front.length < xs.length) :
    ∃ c zs, xs = front ++ c :: zs ∧ back = c :: zs ++ ys := by
  rcases List.append_eq_append_iff.1 h with ⟨zs, hfront, -⟩ | ⟨zs, hxs, hback⟩
  · rw [hfront, List.length_append] at hlt
    omega
  · cases zs with
    | nil =>
      rw [hxs, List.append_nil] at hlt
      omega
    | cons c zs => exact ⟨c, zs, hxs, hback⟩

/-- In two cuts of one text, the character behind the shorter front part is in the longer one. -/
theorem mem_of_split {front back xs ys : List Char} {c : Char} (h : xs ++ ys = front ++ back)
    (hlt : front.length < xs.length) (hc : back.head? = some c) : c ∈ xs := by
  rcases exists_of_split h hlt with ⟨d, zs, rfl, rfl⟩
  cases hc
  exact List.mem_append_right front List.mem_cons_self

/-- The character at a place of a spelling folds to the character there of the word. -/
theorem foldCase_head {word front back : List Char} {c : Char} (h : back.head? = some c) :
    ((front ++ back).map foldCase = word) → word[front.length]? = some (foldCase c) := by
  intro hword
  cases back with
  | nil => cases h
  | cons d back =>
    cases h
    rw [← hword]
    simp

/-- The last character of a part of a word, where it stands in the word. -/
theorem foldCase_last {word front back : List Char} {c : Char} (h : front.getLast? = some c) :
    ((front ++ back).map foldCase = word) → word[front.length - 1]? = some (foldCase c) := by
  intro hword
  rcases List.getLast?_eq_some_iff.1 h with ⟨front', rfl⟩
  rw [← hword]
  simp

/-- A word as it is written has no characters but those that fold to its own. -/
theorem not_mem_of_foldCase {cs word : List Char} {c : Char} (h : cs.map foldCase = word)
    (hc : foldCase c ∉ word) : c ∉ cs := by
  intro hmem
  apply hc
  rw [← h]
  exact List.mem_map_of_mem hmem

/-! ## Seams -/

/-- A text that ends with a character of a word. -/
def EndsWord (cs : List Char) : Prop :=
  ∃ c, cs.getLast? = some c ∧ isWordChar c = true

/-- What stands in front does not matter. -/
theorem EndsWord.append {back : List Char} (h : EndsWord back) (front : List Char) :
    EndsWord (front ++ back) := by
  rcases h with ⟨c, hc, hword⟩
  refine ⟨c, ?_, hword⟩
  rw [List.getLast?_append, hc]
  rfl

/-- A text of characters of words ends with one. -/
theorem endsWord_of_forall {cs : List Char} (hne : cs ≠ [])
    (h : ∀ c ∈ cs, isWordChar c = true) : EndsWord cs := by
  refine ⟨cs.getLast hne, List.getLast?_eq_some_getLast hne, ?_⟩
  exact h _ (List.getLast_mem hne)

/-- Behind such a text no word can begin. -/
theorem EndsWord.not_edge {cs : List Char} (h : EndsWord cs) :
    ¬ isWordEdge cs.getLast? = true := by
  rcases h with ⟨c, hc, hword⟩
  rw [hc, isWordEdge_some, hword]
  exact Bool.false_ne_true

/-- An edge behind a text is an edge behind the end of it. -/
theorem isWordEdge_getLast?_drop {front back : List Char}
    (h : isWordEdge (front ++ back).getLast? = true) : isWordEdge back.getLast? = true := by
  rw [List.getLast?_append] at h
  cases hlast : back.getLast? with
  | none => rfl
  | some c =>
    rw [hlast] at h
    exact h

/-- No word runs over the end of a slice into the text behind it. -/
def WordSeam (slice behind : List Char) : Prop :=
  isWordEdge slice.getLast? = true ∨ isWordEdge behind.head? = true

/-- No word runs into the end of the text. -/
theorem wordSeam_nil (slice : List Char) : WordSeam slice [] :=
  Or.inr rfl

/-- Nor does one from the end of a slice. -/
theorem WordSeam.drop {front back behind : List Char} (h : WordSeam (front ++ back) behind) :
    WordSeam back behind := by
  rcases h with hslice | hbehind
  · exact Or.inl (isWordEdge_getLast?_drop hslice)
  · exact Or.inr hbehind

/-- A match that ends in a word and at the edge of a word still does so when the text goes on. -/
theorem WordSeam.edge_append {front rest behind : List Char} (h : WordSeam (front ++ rest) behind)
    (hfront : EndsWord front) (hedge : isWordEdge rest.head? = true) :
    isWordEdge (rest ++ behind).head? = true := by
  cases rest with
  | nil =>
    rcases h with hslice | hbehind
    · rw [List.append_nil] at hslice
      exact absurd hslice hfront.not_edge
    · exact hbehind
  | cons c rest => exact hedge

/-- A spelling of a word that ends with a letter ends a word. -/
theorem endsWord_of_map_foldCase {cs word : List Char} {c : Char} (h : cs.map foldCase = word)
    (hlast : word.getLast? = some c) (hc : c.isAlpha = true) : EndsWord cs := by
  rw [← h, List.getLast?_map] at hlast
  rcases Option.map_eq_some_iff.1 hlast with ⟨d, hd, rfl⟩
  exact ⟨d, hd, isWordChar_of_foldCase hc⟩

namespace Rollable

/-- A number is made of characters of words. -/
theorem IsNumber.isWordChar {cs : List Char} (h : IsNumber cs) : ∀ c ∈ cs, isWordChar c = true :=
  fun c hc => isWordChar_of_isDecimalDigit (h.digits c hc)

/-- So it ends with one. -/
theorem IsNumber.endsWord {cs : List Char} (h : IsNumber cs) : EndsWord cs :=
  endsWord_of_forall h.ne_nil h.isWordChar

/-- So does a bonus. -/
theorem IsBonus.endsWord {cs : List Char} (h : IsBonus cs) : EndsWord cs := by
  rcases h with ⟨sign, digits, rfl, -, hnumber⟩
  exact hnumber.endsWord.append [sign]

/-- So does a modifier. -/
theorem IsModifier.endsWord {cs : List Char} (h : IsModifier cs) : EndsWord cs := by
  rcases h with ⟨blanks, sign, blanks', digits, rfl, -, -, -, hnumber⟩
  exact hnumber.endsWord.append _

/-- A bonus begins with a sign. -/
theorem IsBonus.head {cs : List Char} (h : IsBonus cs) :
    ∃ sign, cs.head? = some sign ∧ (sign = '+' ∨ sign = '-') := by
  rcases h with ⟨sign, digits, rfl, hsign, -⟩
  exact ⟨sign, rfl, hsign⟩

/-- A sign is no character of a word. -/
theorem isWordChar_of_sign {c : Char} (h : c = '+' ∨ c = '-') : Text.isWordChar c = false := by
  rcases h with rfl | rfl
  · decide +kernel
  · decide +kernel

/-- What a bonus is made of does not fold to letters. -/
theorem IsBonus.isAlpha_foldCase {cs : List Char} (h : IsBonus cs) :
    ∀ c ∈ cs, (foldCase c).isAlpha = false := by
  rcases h with ⟨sign, digits, rfl, hsign, hnumber⟩
  rw [List.forall_mem_cons]
  constructor
  · rcases hsign with rfl | rfl
    · decide
    · decide
  · intro c hc
    exact isAlpha_foldCase_of_isDecimalDigit (hnumber.digits c hc)

/-- What the patterns for rollable parts promise: their pieces are tokens, and no word runs from a
piece into the text behind it. -/
def FollowsToken (piece : Piece) (rest : List Char) : Prop :=
  (∃ t, piece = .token t) ∧ isWordEdge rest.head? = true

/-- The edge in front of a text is the edge in front of its beginning. -/
theorem isWordEdge_of_prefix {cs ds : List Char} (h : ds <+: cs)
    (hedge : isWordEdge cs.head? = true) : isWordEdge ds.head? = true := by
  rcases h with ⟨behind, rfl⟩
  cases ds with
  | nil => rfl
  | cons d ds => exact hedge

end Rollable
end DiceRoller
