import Mathlib.Logic.Relation
import DiceRoller.Proofs.Notation.Printing
import DiceRoller.Proofs.Text.CharClass

/-!
# Spellings of a notation

A notation may be spelled with more or fewer blanks, and its letters may be switched between capitals
and small letters.  All spellings have the same canonical text, which is all that is read; so they stand
for the same descriptor or are refused for the same reason.  The canonical text of a notation that is
accepted is itself a spelling of it, with the characters of dice notation only, and is its own canonical
text.

Main results:

- Theorem `Respelled.canonical_eq`: one change of spelling keeps the canonical text.
- Theorem `Descriptor.parse_eq_of_canonical`: nothing but the canonical text is read.
- Theorem `Descriptor.parse_canonical`: the canonical text of an accepted notation.
- Theorem `parse_respelled`: what does not depend on the spelling.
-/

namespace DiceRoller

/-! ## Changes of spelling -/

/-- One change of the spelling of a text: a blank is put in somewhere, or an ASCII letter changes its
case. -/
inductive Respelled : List Char → List Char → Prop where
  | blank (front back : List Char) {c : Char} (h : Text.isBlank c = true) :
      Respelled (front ++ back) (front ++ c :: back)
  | letter (front back : List Char) {c c' : Char} (h : c.isAlpha = true) (h' : c'.isAlpha = true)
      (hsame : c.toLower = c'.toLower) : Respelled (front ++ c :: back) (front ++ c' :: back)

/-- Two texts are spellings of each other when a row of changes leads from the one to the other, where
changes may also be taken back. -/
def Spellings : List Char → List Char → Prop :=
  Relation.EqvGen Respelled

namespace Notation

/-- A letter is kept in lower case. -/
theorem canonical_singleton_of_isAlpha {c : Char} (h : c.isAlpha = true) :
    canonical [c] = [c.toLower] := by
  have hblank := Text.isBlank_of_isWordChar (Text.isWordChar_of_isAlpha h)
  have hascii := Text.toNat_lt_of_isAlphanum (c := c) (by simp [Char.isAlphanum, h])
  simp [canonical, Text.dropBlanks, hblank, Text.lowercase_ascii hascii]

/-- The dotted capital I keeps its dot in lower case. -/
theorem mem_lowercase_dotted {c : Char} (h : c ∈ Text.lowercase '\u0130') :
    c = 'i' ∨ c = '\u0307' := by
  have hlower : Text.lowercase '\u0130' = ['i', '\u0307'] := by decide
  rwa [hlower, List.mem_cons, List.mem_singleton] at h

/-- A canonical text has no capitals of ASCII. -/
theorem toLower_of_mem_canonical {cs : List Char} {c : Char} (h : c ∈ canonical cs) :
    c.toLower = c := by
  rcases Nat.lt_or_ge c.toNat 128 with hlt | hle
  · rcases List.mem_flatMap.1 h with ⟨b, -, hlower⟩
    rcases Text.foldCase_of_mem_lowercase hlower hlt with rfl | rfl
    · rcases mem_lowercase_dotted hlower with rfl | rfl <;> decide
    · exact Text.toLower_foldCase b
  · rcases Text.toLower_eq_or_isAlpha c with heq | halpha
    · exact heq
    · have hascii := Text.toNat_lt_of_isAlphanum
        (Bool.or_eq_true_iff.2 (Or.inl (Text.isAlpha_of_isAlpha_toLower halpha)))
      omega

/-- Nor does it have blanks of ASCII. -/
theorem isWhitespace_of_mem_canonical {cs : List Char} {c : Char} (h : c ∈ canonical cs) :
    c.isWhitespace = false := by
  rw [← Bool.not_eq_true]
  intro hwhite
  rcases List.mem_flatMap.1 h with ⟨b, hb, hlower⟩
  have hascii : c.isAlpha = false ∧ c.toNat < 128 := by
    simp [Char.isWhitespace] at hwhite
    rcases hwhite with ((h | h) | h) | h <;> subst h <;> decide
  rcases Text.foldCase_of_mem_lowercase hlower hascii.2 with rfl | hfold
  · rcases mem_lowercase_dotted hlower with rfl | rfl <;> cases hwhite
  · rw [Text.eq_of_foldCase_eq hfold hascii.1, Text.dropBlanks, List.mem_filter,
      Text.isBlank_of_isWhitespace hwhite] at hb
    exact absurd hb.2 (by decide)

end Notation

/-- One change of spelling keeps the canonical text. -/
theorem Respelled.canonical_eq {xs ys : List Char} (h : Respelled xs ys) :
    Notation.canonical xs = Notation.canonical ys := by
  cases h with
  | blank front back h =>
    rw [Notation.canonical_append, Notation.canonical_append, Notation.canonical_cons_of_isBlank h]
  | @letter front back c c' h h' hsame =>
    have hletter : Notation.canonical [c] = Notation.canonical [c'] := by
      rw [Notation.canonical_singleton_of_isAlpha h, Notation.canonical_singleton_of_isAlpha h', hsame]
    rw [← List.singleton_append, ← List.singleton_append (x := c')]
    simp only [Notation.canonical_append, hletter]

/-- So do any number of them. -/
theorem Spellings.canonical_eq {xs ys : List Char} (h : Spellings xs ys) :
    Notation.canonical xs = Notation.canonical ys := by
  induction h with
  | rel xs ys hchange => exact hchange.canonical_eq
  | refl xs => rfl
  | symm xs ys h ih => exact ih.symm
  | trans xs ys zs h h' ih ih' => exact ih.trans ih'

/-! ## What is read -/

namespace Descriptor

/-- Nothing but the canonical text is read. -/
theorem parse_eq_of_canonical {xs ys : List Char}
    (h : Notation.canonical xs = Notation.canonical ys) : parse xs = parse ys := by
  rw [parse, parse, h]

/-- The canonical text of an accepted notation has the characters of dice notation only. -/
theorem mem_notationChars_of_parse {cs : List Char} {d : Descriptor} (h : parse cs = .ok d) :
    ∀ c ∈ Notation.canonical cs, c ∈ notationChars := by
  rcases exists_phrase_of_parse h with ⟨phrase, hwell, hrender, -, -⟩
  rw [← hrender]
  exact hwell.mem_notationChars

/-- It is read as the same descriptor. -/
theorem parse_canonical {cs : List Char} {d : Descriptor} (h : parse cs = .ok d) :
    parse (Notation.canonical cs) = .ok d := by
  rw [← h]
  apply parse_eq_of_canonical
  exact canonical_eq_self (mem_notationChars_of_parse h)

/-- The descriptor keeps it. -/
theorem canonical_eq_of_parse {cs : List Char} {d : Descriptor} (h : parse cs = .ok d) :
    d.canonical = Notation.canonical cs := by
  rcases exists_phrase_of_parse h with ⟨phrase, -, -, -, hd⟩
  exact hd.canonical_eq

end Descriptor

/-- What does not depend on the spelling of a notation.  The canonical text of an accepted notation is
read as the same descriptor, and has no characters but those of dice notation.  And whatever blanks are
put in or left out, and whatever letters are switched, a notation has the same outcome: the same
descriptor, or the same error. -/
theorem parse_respelled :
    (∀ (cs : List Char) (d : Descriptor), Descriptor.parse cs = .ok d →
      Descriptor.parse d.canonical = .ok d ∧ ∀ c ∈ d.canonical, c ∈ notationChars) ∧
    ∀ xs ys : List Char, Spellings xs ys → Descriptor.parse xs = Descriptor.parse ys := by
  refine ⟨?_, ?_⟩
  · intro cs d h
    rw [Descriptor.canonical_eq_of_parse h]
    exact ⟨Descriptor.parse_canonical h, Descriptor.mem_notationChars_of_parse h⟩
  · intro xs ys h
    exact Descriptor.parse_eq_of_canonical h.canonical_eq

/-- Four dice, with a blank and a capital more than it takes. -/
theorem parse_respelled_four_dice :
    let d : Descriptor := ⟨4, 6, none, 0, "4d6".toList⟩
    Descriptor.parse "4 D6".toList = .ok d ∧ Spellings "4 D6".toList "4d6".toList ∧
      Descriptor.parse d.canonical = .ok d ∧
      Descriptor.parse "4 D6".toList = Descriptor.parse "4d6".toList := by
  intro d
  have hparse : Descriptor.parse "4 D6".toList = .ok d := by decide
  have hblank : Respelled "4D6".toList "4 D6".toList := .blank ['4'] "D6".toList (by decide)
  have hletter : Respelled "4D6".toList "4d6".toList :=
    .letter ['4'] ['6'] (by decide) (by decide) (by decide)
  have hspellings : Spellings "4 D6".toList "4d6".toList :=
    .trans _ _ _ (.symm _ _ (.rel _ _ hblank)) (.rel _ _ hletter)
  exact ⟨hparse, hspellings, (parse_respelled.1 _ d hparse).1, parse_respelled.2 _ _ hspellings⟩

end DiceRoller
