import DiceRoller.Proofs.Scan.Locality.Seam

/-!
# The pattern for dice is local

Dice go on with a modifier if there is one behind them, with blanks around its sign.  So a text must
also not be cut where the text behind the cut would complete a modifier; what may stand behind a cut is
said by `DiceSeam`.

Main results:

- Theorem `takeModifier_append_dice`: no modifier runs into dice.
- Theorem `apart_dice`: no dice begin inside others.
- Theorem `local_dice`: the laws.
-/

namespace DiceRoller

open Text

namespace Rollable

/-- No word and no modifier of dice runs over the end of a slice into the text behind it. -/
structure DiceSeam (slice behind : List Char) : Prop where
  word : WordSeam slice behind
  modifier : ∀ front back, slice = front ++ back → takeModifier back = none →
    takeModifier (back ++ behind) = none

theorem diceSeam_nil (slice : List Char) : DiceSeam slice [] where
  word := wordSeam_nil slice
  modifier := by
    intro front back _ hnone
    rwa [List.append_nil]

theorem DiceSeam.drop {front back behind : List Char} (h : DiceSeam (front ++ back) behind) :
    DiceSeam back behind where
  word := h.word.drop
  modifier := by
    intro front' back' heq hnone
    apply h.modifier (front ++ front') back' _ hnone
    rw [heq, List.append_assoc]

/-- Only a digit, a blank or a sign belongs to a modifier, and from its first digit on there are
digits only. -/
theorem IsModifier.digits_of_digit {cs front back : List Char} {c : Char} (h : IsModifier cs)
    (hcs : cs = front ++ back) (hc : back.head? = some c) (hword : Text.isWordChar c = true) :
    ∀ d ∈ back, isDecimalDigit d = true := by
  rcases h with ⟨blanks, sign, blanks', digits, rfl, hblanks, hsign, hblanks', hnumber⟩
  rcases List.append_eq_append_iff.1 hcs with ⟨zs, rfl, hdigits⟩ | ⟨zs, hfront, hback⟩
  · intro d hd
    apply hnumber.digits
    rw [hdigits]
    exact List.mem_append_right zs hd
  · cases zs with
    | nil =>
      rw [List.nil_append] at hback
      rw [hback]
      exact hnumber.digits
    | cons z zs =>
      -- In front of its digits a modifier holds no character of a word.
      rw [hback] at hc
      cases hc
      have hmem : c ∈ blanks ++ sign :: blanks' := by
        rw [hfront]
        exact List.mem_append_right front List.mem_cons_self
      rcases List.mem_append.1 hmem with hmem | hmem
      · rw [isWordChar_of_isBlank (hblanks c hmem)] at hword
        cases hword
      · rcases List.mem_cons.1 hmem with rfl | hmem
        · rw [isWordChar_of_sign hsign] at hword
          cases hword
        · rw [isWordChar_of_isBlank (hblanks' c hmem)] at hword
          cases hword

/-- A modifier that would be completed by the text behind a slice runs into that text. -/
theorem exists_run_of_takeModifier {back behind front rest : List Char}
    (hnone : takeModifier back = none) (h : takeModifier (back ++ behind) = some (front, rest))
    (hedge : isWordEdge back.getLast? = true) :
    ∃ run, run ≠ [] ∧ front = back ++ run ∧ behind = run ++ rest := by
  rcases takeModifier_eq_some_iff.1 h with ⟨hcs, hmodifier, hrest⟩
  rcases List.append_eq_append_iff.1 hcs with ⟨zs, hfront, hbehind⟩ | ⟨zs, hback, hzs⟩
  · refine ⟨zs, ?_, hfront, hbehind⟩
    rintro rfl
    rw [List.append_nil] at hfront
    rw [← hfront] at hedge
    exact hmodifier.endsWord.not_edge hedge
  · cases zs with
    | nil =>
      rw [List.append_nil] at hback
      rw [hback] at hedge
      exact absurd hedge hmodifier.endsWord.not_edge
    | cons z zs =>
      have hsome : takeModifier back = some (front, z :: zs) := by
        apply takeModifier_eq_some_iff.2
        refine ⟨hback, hmodifier, ?_⟩
        rw [hzs] at hrest
        exact hrest
      rw [hnone] at hsome
      cases hsome

theorem IsDieLetter.isWordChar {c : Char} (h : IsDieLetter c) : Text.isWordChar c = true := by
  rcases h with rfl | rfl
  · decide +kernel
  · decide +kernel

/-- Dice begin with a character of a word. -/
theorem head_of_dice {count : List Char} {letter : Char} (sides : List Char)
    (hcount : ∀ c ∈ count, isDecimalDigit c = true) (hletter : IsDieLetter letter) :
    ∃ c, (count ++ letter :: sides).head? = some c ∧ Text.isWordChar c = true := by
  cases count with
  | nil => exact ⟨letter, rfl, hletter.isWordChar⟩
  | cons c count => exact ⟨c, rfl, isWordChar_of_isDecimalDigit (hcount c List.mem_cons_self)⟩

/-- Behind digits at their start, dice go on with a character of the same word: a further digit or
the letter. -/
theorem head_of_dice_rest {count sides run rest : List Char} {letter : Char}
    (h : run ++ rest = count ++ letter :: sides) (hrun : ∀ c ∈ run, isDecimalDigit c = true)
    (hcount : ∀ c ∈ count, isDecimalDigit c = true) (hletter : IsDieLetter letter) :
    ∃ c, rest.head? = some c ∧ Text.isWordChar c = true := by
  rcases List.append_eq_append_iff.1 h with ⟨zs, hzs, htail⟩ | ⟨zs, hzs, htail⟩
  · rw [htail]
    apply head_of_dice sides _ hletter
    intro c hc
    apply hcount
    rw [hzs]
    exact List.mem_append_right run hc
  · cases zs with
    | nil =>
      rw [List.nil_append] at htail
      rw [← htail]
      exact ⟨letter, rfl, hletter.isWordChar⟩
    | cons z zs =>
      have hz : z = letter := (List.cons.inj htail).1.symm
      have hdigit := hrun z (by rw [hzs]; exact List.mem_append_right count List.mem_cons_self)
      rw [hz, isDecimalDigit_of_isDieLetter hletter] at hdigit
      cases hdigit

/-- No modifier runs into dice: its digits would be the number of the dice, and then the letter of
the dice would follow. -/
theorem takeModifier_append_dice {back count sides : List Char} {letter : Char}
    (hnone : takeModifier back = none) (hedge : isWordEdge back.getLast? = true)
    (hcount : ∀ c ∈ count, isDecimalDigit c = true) (hletter : IsDieLetter letter) :
    takeModifier (back ++ (count ++ letter :: sides)) = none := by
  by_contra hsome
  rcases Option.ne_none_iff_exists'.1 hsome with ⟨⟨front, rest⟩, htaken⟩
  rcases exists_run_of_takeModifier hnone htaken hedge with ⟨run, hne, hfront, hrun⟩
  rcases takeModifier_eq_some_iff.1 htaken with ⟨-, hmodifier, hrest⟩
  rcases head_of_dice sides hcount hletter with ⟨c, hc, hword⟩
  have hhead : run.head? = some c := by
    rw [hrun, List.head?_append] at hc
    cases run with
    | nil => exact absurd rfl hne
    | cons d run => exact hc
  have hdigits := hmodifier.digits_of_digit hfront hhead hword
  rcases head_of_dice_rest hrun.symm hdigits hcount hletter with ⟨d, hd, hdword⟩
  rw [hd, isWordEdge_some, hdword] at hrest
  cases hrest

/-- Digits that no word runs into are no dice. -/
theorem matchDice_of_digits {before : Option Char} {digits rest : List Char}
    (hdigits : ∀ c ∈ digits, isDecimalDigit c = true) (hedge : isWordEdge rest.head? = true) :
    matchDice before (digits ++ rest) = none := by
  by_contra hsome
  rcases Option.ne_none_iff_exists'.1 hsome with ⟨m, hm⟩
  rcases matchDice_eq_some_iff.1 hm with
    ⟨-, count, letter, sides, modifier, rest', hcs, hcount, hletter, -⟩
  rw [List.append_assoc, List.append_assoc, List.cons_append] at hcs
  rcases head_of_dice_rest hcs hdigits hcount hletter with ⟨d, hd, hword⟩
  rw [hd, isWordEdge_some, hword] at hedge
  cases hedge

theorem matchDice_of_edge {before : Option Char} {cs : List Char}
    (h : isWordEdge cs.head? = true) : matchDice before cs = none := by
  have hnil : ∀ d ∈ ([] : List Char), isDecimalDigit d = true := by simp
  exact matchDice_of_digits hnil h

/-- Up to their sides dice are characters of one word. -/
theorem isWordChar_of_mem_dice {count sides : List Char} {letter c : Char}
    (hcount : ∀ c ∈ count, isDecimalDigit c = true) (hletter : IsDieLetter letter)
    (hnumber : IsNumber sides) (hc : c ∈ count ++ letter :: sides) : Text.isWordChar c = true := by
  rcases List.mem_append.1 hc with hc | hc
  · exact isWordChar_of_isDecimalDigit (hcount c hc)
  · rcases List.mem_cons.1 hc with rfl | hc
    · exact hletter.isWordChar
    · exact hnumber.isWordChar c hc

theorem apart_dice {before : Option Char} {cs front back : List Char} {m : Match}
    (h : matchDice before cs = some m) (hcs : cs = front ++ back) (hne : front ≠ [])
    (hlt : front.length < m.whole.length) : matchDice front.getLast? back = none := by
  by_contra hsome
  rcases Option.ne_none_iff_exists'.1 hsome with ⟨m', hm'⟩
  rcases matchDice_eq_some_iff.1 h with
    ⟨-, count, letter, sides, modifier, rest, rfl, hcount, hletter, hnumber, hmodifier, hedge, rfl⟩
  simp only [Match.whole, List.nil_append, List.append_nil] at hlt
  rcases matchDice_eq_some_iff.1 hm' with
    ⟨hfrontEdge, count', letter', sides', modifier', rest', hback, hcount', hletter', -⟩
  have hbackHead : ∃ c, back.head? = some c ∧ Text.isWordChar c = true := by
    rw [hback, List.append_assoc, List.append_assoc, List.cons_append]
    exact head_of_dice _ hcount' hletter'
  rw [List.append_assoc] at hcs
  rcases List.append_eq_append_iff.1 hcs with ⟨zs, hfront, htail⟩ | ⟨zs, hdice, -⟩
  · -- A place in the modifier at which a word begins is one in front of its digits.
    have hshort : zs.length < modifier.length := by
      simp only [hfront, List.length_append] at hlt
      omega
    rcases hbackHead with ⟨c, hc, hword⟩
    rcases hmodifier with hmodifier | ⟨rfl, -⟩
    · rcases exists_of_split htail hshort with ⟨d, ws, hmod, hrest⟩
      rw [hrest] at hc
      have hdigits := hmodifier.digits_of_digit hmod hc hword
      rw [hrest, matchDice_of_digits hdigits hedge] at hm'
      cases hm'
    · exact absurd hshort (Nat.not_lt_zero _)
  · have hends : EndsWord front := by
      apply endsWord_of_forall hne
      intro c hc
      apply isWordChar_of_mem_dice hcount hletter hnumber
      rw [hdice]
      exact List.mem_append_left zs hc
    exact hends.not_edge hfrontEdge

theorem local_dice : dice.Local DiceSeam FollowsToken where
  joins_nil := diceSeam_nil
  joins_drop := DiceSeam.drop
  joins_lead := by
    intro passed before cs m piece h _ hpassed
    rcases matchDice_eq_some_iff.1 h with
      ⟨hbefore, count, letter, sides, modifier, rest, -, hcount, hletter, -, -, -, rfl⟩
    have hedge : isWordEdge passed.getLast? = true := by
      rcases hpassed with rfl | rfl
      · rfl
      · exact hbefore
    constructor
    · left
      rw [List.append_nil]
      exact hedge
    · intro front back heq hnone
      rw [List.append_nil] at heq
      rw [heq] at hedge
      have hdice : takeModifier (back ++ (count ++ letter :: (sides ++ modifier ++ rest))) = none :=
        takeModifier_append_dice hnone (isWordEdge_getLast?_drop hedge) hcount hletter
      simpa using hdice
  extends_right := by
    intro before slice behind m h hseam
    rcases matchDice_eq_some_iff.1 h with
      ⟨hbefore, count, letter, sides, modifier, rest, rfl, hcount, hletter, hnumber, hmodifier,
        hedge, rfl⟩
    apply matchDice_eq_some_iff.2
    refine ⟨hbefore, count, letter, sides, modifier, rest ++ behind, ?_, hcount, hletter, hnumber,
      ?_, ?_, rfl⟩
    · simp only [List.append_assoc]
    · rcases hmodifier with hmodifier | ⟨rfl, hnone⟩
      · exact Or.inl hmodifier
      · right
        refine ⟨rfl, ?_⟩
        apply hseam.modifier (count ++ letter :: sides) rest _ hnone
        rw [List.append_nil]
    · apply hseam.word.edge_append _ hedge
      rcases hmodifier with hmodifier | ⟨rfl, -⟩
      · exact hmodifier.endsWord.append _
      · rw [List.append_nil]
        exact (hnumber.endsWord.append [letter]).append count
  apart h hcs hne hlt _ := apart_dice h hcs hne hlt
  silent_tail := by
    intro before cs m rest h htail
    rcases matchDice_eq_some_iff.1 h with
      ⟨-, count, letter, sides, modifier, rest', -, -, -, -, -, -, rfl⟩
    exact absurd rfl htail
  restart := by
    intro before cs m piece rest h _ _ hrest
    rcases matchDice_eq_some_iff.1 h with
      ⟨-, count, letter, sides, modifier, rest', -, -, -, -, -, hedge, rfl⟩
    have hrestEdge := isWordEdge_of_prefix hrest hedge
    show matchDice none rest = matchDice _ rest
    rw [matchDice_of_edge hrestEdge, matchDice_of_edge hrestEdge]
  follows := by
    intro before cs m piece rest h hpiece hrest
    have htoken := onlyToken_matchDice h piece hpiece
    rcases matchDice_eq_some_iff.1 h with
      ⟨-, count, letter, sides, modifier, rest', -, -, -, -, -, hedge, rfl⟩
    exact ⟨htoken, isWordEdge_of_prefix hrest hedge⟩
  not_text := by
    intro before cs m piece h hpiece body
    rcases onlyToken_matchDice h piece hpiece with ⟨t, rfl⟩
    simp

end Rollable
end DiceRoller
