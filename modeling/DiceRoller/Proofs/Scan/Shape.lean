import DiceRoller.Proofs.Text.CharClass
import DiceRoller.Proofs.Text.Run
import DiceRoller.Scan.Rollable

/-!
# The shapes of rollable parts

What the four patterns accept, said as the texts that they match instead of as steps of reading: a
match is a way to write the text as a row of parts, each of a simple kind.

Main results:

- Theorems `takeNumber_eq_some_iff`, `takeSigned_eq_some_iff`, `takeModifier_eq_some_iff`: what the
  readers of numbers take.
- Theorems `matchLabelled_eq_some_iff`, `matchToHit_eq_some_iff`, `matchDice_eq_some_iff` and
  `matchSave_eq_some_iff`: what the patterns match.
-/

namespace DiceRoller

open Text

/-- What no word runs into does not begin with a digit. -/
theorem isDecimalDigit_of_edge {cs : List Char} (h : isWordEdge cs.head? = true) :
    ∀ c, cs.head? = some c → isDecimalDigit c = false := by
  intro c hc
  rw [hc, isWordEdge_some, Bool.not_eq_true'] at h
  by_contra hdigit
  rw [isWordChar_of_isDecimalDigit (by simpa using hdigit)] at h
  cases h

/-- No digit is a blank. -/
theorem isBlank_of_isDecimalDigit {c : Char} (h : isDecimalDigit c = true) : isBlank c = false :=
  isBlank_of_isWordChar (isWordChar_of_isDecimalDigit h)

/-- No blank is a digit. -/
theorem isDecimalDigit_of_isBlank {c : Char} (h : isBlank c = true) : isDecimalDigit c = false := by
  by_contra hdigit
  rw [isBlank_of_isDecimalDigit (by simpa using hdigit)] at h
  cases h

/-- No sign is a digit. -/
theorem isDecimalDigit_of_sign {c : Char} (h : c = '+' ∨ c = '-') : isDecimalDigit c = false := by
  rcases h with rfl | rfl
  · decide
  · decide

/-- Taking a word in any case means to find some spelling of it. -/
theorem Text.takeCaseless_eq_some_iff {word cs front back : List Char} :
    takeCaseless word cs = some (front, back) ↔
      cs = front ++ back ∧ front.map foldCase = word := by
  constructor
  · intro h
    exact ⟨(takeCaseless_append h).symm, map_foldCase_of_takeCaseless h⟩
  · rintro ⟨rfl, rfl⟩
    induction front with
    | nil => rfl
    | cons c front ih =>
      rw [List.map_cons, List.cons_append, takeCaseless, if_pos rfl, ih]
      rfl

namespace Rollable

/-! ## Numbers -/

/-- Digits, at least one. -/
structure IsNumber (cs : List Char) : Prop where
  ne_nil : cs ≠ []
  digits : ∀ c ∈ cs, isDecimalDigit c = true

/-- A sign with digits behind it. -/
def IsBonus (cs : List Char) : Prop :=
  ∃ sign digits, cs = sign :: digits ∧ (sign = '+' ∨ sign = '-') ∧ IsNumber digits

/-- A signed number behind dice, with blanks around its sign. -/
def IsModifier (cs : List Char) : Prop :=
  ∃ blanks sign blanks' digits, cs = blanks ++ sign :: blanks' ++ digits ∧
    (∀ c ∈ blanks, isBlank c = true) ∧ (sign = '+' ∨ sign = '-') ∧
    (∀ c ∈ blanks', isBlank c = true) ∧ IsNumber digits

/-- A modifier is made of blanks, a sign and digits. -/
theorem IsModifier.mem {cs : List Char} (h : IsModifier cs) {c : Char} (hc : c ∈ cs) :
    isBlank c = true ∨ (c = '+' ∨ c = '-') ∨ isDecimalDigit c = true := by
  rcases h with ⟨blanks, sign, blanks', digits, rfl, hblanks, hsign, hblanks', hnumber⟩
  simp only [List.mem_append, List.mem_cons] at hc
  rcases hc with (hc | rfl | hc) | hc
  · exact Or.inl (hblanks c hc)
  · exact Or.inr (Or.inl hsign)
  · exact Or.inl (hblanks' c hc)
  · exact Or.inr (Or.inr (hnumber.digits c hc))

/-- A number is a run of digits of any script. -/
theorem takeNumber_eq_takeRun (cs : List Char) : takeNumber cs = takeRun isDecimalDigit cs := by
  unfold takeNumber takeRun
  split <;> simp_all

/-- What is taken as a number: all digits that stand there. -/
theorem takeNumber_eq_some_iff {cs front back : List Char} :
    takeNumber cs = some (front, back) ↔
      cs = front ++ back ∧ IsNumber front ∧
        ∀ c, back.head? = some c → isDecimalDigit c = false := by
  rw [takeNumber_eq_takeRun, takeRun_eq_some_iff]
  constructor
  · rintro ⟨hcs, hne, hdigits, hback⟩
    exact ⟨hcs, ⟨hne, hdigits⟩, hback⟩
  · rintro ⟨hcs, hnumber, hback⟩
    exact ⟨hcs, hnumber.ne_nil, hnumber.digits, hback⟩

/-- What is taken as a bonus: a sign and all digits behind it. -/
theorem takeSigned_eq_some_iff {cs front back : List Char} :
    takeSigned cs = some (front, back) ↔
      cs = front ++ back ∧ IsBonus front ∧
        ∀ c, back.head? = some c → isDecimalDigit c = false := by
  constructor
  · intro h
    cases cs with
    | nil => cases h
    | cons c cs =>
      rw [takeSigned] at h
      split at h
      · rename_i hsign
        obtain ⟨⟨digits, rest⟩, htaken, heq⟩ := Option.map_eq_some_iff.1 h
        simp only [Prod.mk.injEq] at heq
        obtain ⟨rfl, rfl⟩ := heq
        obtain ⟨rfl, hnumber, hback⟩ := takeNumber_eq_some_iff.1 htaken
        exact ⟨rfl, ⟨c, digits, rfl, by simpa using hsign, hnumber⟩, hback⟩
      · cases h
  · rintro ⟨rfl, ⟨sign, digits, rfl, hsign, hnumber⟩, hback⟩
    have htaken : takeNumber (digits ++ back) = some (digits, back) :=
      takeNumber_eq_some_iff.2 ⟨rfl, hnumber, hback⟩
    rw [List.cons_append, takeSigned, if_pos (by simpa using hsign), htaken]
    rfl

/-- What is taken as a modifier: one that ends at the edge of a word. -/
theorem takeModifier_eq_some_iff {cs front back : List Char} :
    takeModifier cs = some (front, back) ↔
      cs = front ++ back ∧ IsModifier front ∧ isWordEdge back.head? = true := by
  constructor
  · intro h
    have hcs := takeModifier_append h
    unfold takeModifier at h
    split at h
    · cases h
    · rename_i c more hmore
      split at h
      · rename_i hsign
        obtain ⟨⟨digits, rest⟩, htaken, h⟩ := Option.bind_eq_some_iff.1 h
        split at h
        · rename_i hedge
          obtain ⟨-, hnumber, -⟩ := takeNumber_eq_some_iff.1 htaken
          simp only [Option.some.injEq, Prod.mk.injEq] at h
          obtain ⟨rfl, rfl⟩ := h
          refine ⟨hcs.symm, ⟨cs.takeWhile isBlank, c, more.takeWhile isBlank, digits, rfl, ?_, ?_,
            ?_, hnumber⟩, hedge⟩
          · exact fun d hd => List.mem_takeWhile_imp hd
          · simpa using hsign
          · exact fun d hd => List.mem_takeWhile_imp hd
        · cases h
      · cases h
  · rintro ⟨rfl, ⟨blanks, sign, blanks', digits, rfl, hblanks, hsign, hblanks', hnumber⟩, hedge⟩
    have hsignBlank : isBlank sign = false := by
      rcases hsign with rfl | rfl <;> decide
    have hhead : ∀ c, (digits ++ back).head? = some c → isBlank c = false := by
      intro c hc
      obtain ⟨d, digits', rfl⟩ := List.exists_cons_of_ne_nil hnumber.ne_nil
      simp only [List.cons_append, List.head?_cons, Option.some.injEq] at hc
      subst hc
      exact isBlank_of_isDecimalDigit (hnumber.digits d List.mem_cons_self)
    have hsignHead : ∀ c, (sign :: (blanks' ++ (digits ++ back))).head? = some c →
        isBlank c = false := by
      simpa using hsignBlank
    have hfirst := takeWhile_dropWhile_append hblanks hsignHead
    have hsecond := takeWhile_dropWhile_append hblanks' hhead
    have htaken : takeNumber (digits ++ back) = some (digits, back) :=
      takeNumber_eq_some_iff.2 ⟨rfl, hnumber, isDecimalDigit_of_edge hedge⟩
    have hcs : blanks ++ sign :: blanks' ++ digits ++ back =
        blanks ++ (sign :: (blanks' ++ (digits ++ back))) := by
      simp
    rw [hcs, takeModifier, hfirst.1, hfirst.2]
    simp only [hsecond.1, hsecond.2, htaken, Option.bind_some, hedge, if_true]
    rw [if_pos (by simpa using hsign)]

/-! ## Attacks -/

/-- A bonus behind the word `Attack:`: the word, perhaps a space, a signed number that no word runs
into. -/
theorem matchLabelled_eq_some_iff {before : Option Char} {cs : List Char} {m : Match} :
    matchLabelled before cs = some m ↔
      isWordEdge before = true ∧ ∃ word space bonus rest,
        cs = word ++ space ++ bonus ++ rest ∧ word.map foldCase = "attack:".toList ∧
        (space = [] ∨ space = [' ']) ∧ IsBonus bonus ∧ isWordEdge rest.head? = true ∧
        m = ⟨word ++ space, bonus, [], rest, attackPiece bonus⟩ := by
  constructor
  · intro h
    unfold matchLabelled at h
    split at h
    · rename_i hbefore
      obtain ⟨⟨word, more⟩, hword, hrest⟩ := Option.bind_eq_some_iff.1 h
      obtain ⟨⟨bonus, rest⟩, hbonus, hfinal⟩ := Option.bind_eq_some_iff.1 hrest
      split at hfinal
      · rename_i hedge
        obtain ⟨rfl, hfold⟩ := takeCaseless_eq_some_iff.1 hword
        obtain ⟨hmore, hisBonus, -⟩ := takeSigned_eq_some_iff.1 hbonus
        have hspace := takeOptional_append ' ' more
        refine ⟨hbefore, word, (takeOptional ' ' more).1, bonus, rest, ?_, hfold, ?_, hisBonus,
          hedge, (Option.some.inj hfinal).symm⟩
        · rw [List.append_assoc, List.append_assoc, ← hmore, hspace]
        · cases more with
          | nil => exact Or.inl rfl
          | cons c more =>
            rw [takeOptional]
            split
            · rename_i hc
              exact Or.inr (by rw [hc])
            · exact Or.inl rfl
      · cases hfinal
    · cases h
  · rintro ⟨hbefore, word, space, bonus, rest, rfl, hfold, hspace, hbonus, hedge, rfl⟩
    have hword : takeCaseless "attack:".toList (word ++ (space ++ (bonus ++ rest))) =
        some (word, space ++ (bonus ++ rest)) :=
      takeCaseless_eq_some_iff.2 ⟨rfl, hfold⟩
    have hoptional : takeOptional ' ' (space ++ (bonus ++ rest)) = (space, bonus ++ rest) := by
      rcases hspace with rfl | rfl
      · obtain ⟨sign, digits, rfl, hsign, -⟩ := hbonus
        rcases hsign with rfl | rfl <;> rfl
      · rfl
    have hsigned : takeSigned (bonus ++ rest) = some (bonus, rest) :=
      takeSigned_eq_some_iff.2 ⟨rfl, hbonus, isDecimalDigit_of_edge hedge⟩
    rw [List.append_assoc, List.append_assoc, matchLabelled, if_pos hbefore, hword]
    simp only [Option.bind_some, hoptional, hsigned]
    rw [if_pos hedge]

/-- A bonus in front of the words ` to hit`, which no word runs into. -/
theorem matchBonusToHit_eq_some_iff {lead cs : List Char} {m : Match} :
    matchBonusToHit lead cs = some m ↔ ∃ bonus words rest,
      cs = bonus ++ words ++ rest ∧ IsBonus bonus ∧ words.map foldCase = " to hit".toList ∧
      isWordEdge rest.head? = true ∧ m = ⟨lead, bonus, words, rest, attackPiece bonus⟩ := by
  constructor
  · intro h
    obtain ⟨⟨bonus, more⟩, hbonus, hrest⟩ := Option.bind_eq_some_iff.1 h
    obtain ⟨⟨words, rest⟩, hwords, hfinal⟩ := Option.bind_eq_some_iff.1 hrest
    split at hfinal
    · rename_i hedge
      obtain ⟨rfl, hisBonus, -⟩ := takeSigned_eq_some_iff.1 hbonus
      obtain ⟨hmore, hfold⟩ := takeCaseless_eq_some_iff.1 hwords
      dsimp only at hmore
      refine ⟨bonus, words, rest, ?_, hisBonus, hfold, hedge,
        (Option.some.inj hfinal).symm⟩
      rw [hmore, List.append_assoc]
    · cases hfinal
  · rintro ⟨bonus, words, rest, rfl, hbonus, hfold, hedge, rfl⟩
    have hspace : ∀ c, (words ++ rest).head? = some c → isDecimalDigit c = false := by
      intro c hc
      cases words with
      | nil => simp at hfold
      | cons d words =>
        simp only [List.cons_append, List.head?_cons, Option.some.injEq] at hc
        have hd : foldCase d = ' ' := (List.cons.inj hfold).1
        rw [← hc, eq_of_foldCase_eq hd (by decide)]
        decide
    have hsigned : takeSigned (bonus ++ (words ++ rest)) = some (bonus, words ++ rest) :=
      takeSigned_eq_some_iff.2 ⟨rfl, hbonus, hspace⟩
    have hwords : takeCaseless " to hit".toList (words ++ rest) = some (words, rest) :=
      takeCaseless_eq_some_iff.2 ⟨rfl, hfold⟩
    rw [List.append_assoc, matchBonusToHit, hsigned]
    simp only [Option.bind_some, hwords]
    rw [if_pos hedge]

/-- A bonus in front of the words ` to hit` stands at the start of the text or behind a character
that belongs to no word. -/
theorem matchToHit_eq_some_iff {before : Option Char} {cs : List Char} {m : Match} :
    matchToHit before cs = some m ↔
      (before = none ∧ matchBonusToHit [] cs = some m) ∨
        ∃ c cs', cs = c :: cs' ∧ isWordChar c = false ∧ matchBonusToHit [c] cs' = some m := by
  constructor
  · intro h
    unfold matchToHit at h
    split at h
    · rename_i hstart
      split at hstart
      · rename_i hbefore
        cases h
        exact Or.inl ⟨by simpa using hbefore, hstart⟩
      · cases hstart
    · cases cs with
      | nil => cases h
      | cons c cs' =>
        dsimp only at h
        split at h
        · cases h
        · rename_i hc
          exact Or.inr ⟨c, cs', rfl, by simpa using hc, h⟩
  · rintro (⟨rfl, hstart⟩ | ⟨c, cs', rfl, hc, hbehind⟩)
    · unfold matchToHit
      simp [hstart]
    · have hstart : matchBonusToHit [] (c :: cs') = none := by
        -- The number behind the lead has a sign, so the lead is no sign in front of digits.
        by_contra hsome
        obtain ⟨m', hm'⟩ := Option.ne_none_iff_exists'.1 hsome
        obtain ⟨_, _, _, heq, ⟨_, digits, rfl, -, hnumber⟩, -⟩ :=
          matchBonusToHit_eq_some_iff.1 hm'
        obtain ⟨_, _, _, rfl, ⟨sign, _, rfl, hsign, -⟩, -⟩ :=
          matchBonusToHit_eq_some_iff.1 hbehind
        obtain ⟨d, digits', rfl⟩ := List.exists_cons_of_ne_nil hnumber.ne_nil
        have hd : d = sign := by
          simp only [List.cons_append, List.append_assoc, List.cons.injEq] at heq
          exact heq.2.1.symm
        have hdigit := hnumber.digits d List.mem_cons_self
        rw [hd, isDecimalDigit_of_sign hsign] at hdigit
        cases hdigit
      unfold matchToHit
      simp only [hstart, ite_self]
      rw [if_neg (by simp [hc]), hbehind]

/-! ## Dice -/

/-- The letter of dice. -/
def IsDieLetter (c : Char) : Prop :=
  c = 'd' ∨ c = 'D'

/-- The part of dice behind their sides: a signed number, or nothing where none can be read. -/
def ModifierBefore (modifier rest : List Char) : Prop :=
  IsModifier modifier ∨ (modifier = [] ∧ takeModifier rest = none)

/-- What is taken as the letter of dice. -/
theorem takeDieLetter_eq_some_iff {cs front back : List Char} :
    takeDieLetter cs = some (front, back) ↔
      ∃ letter, IsDieLetter letter ∧ front = [letter] ∧ cs = letter :: back := by
  constructor
  · intro h
    cases cs with
    | nil => cases h
    | cons c cs =>
      rw [takeDieLetter] at h
      split at h
      · rename_i hletter
        cases h
        exact ⟨c, by simpa [IsDieLetter] using hletter, rfl, rfl⟩
      · cases h
  · rintro ⟨letter, hletter, rfl, rfl⟩
    rw [takeDieLetter, if_pos (by simpa [IsDieLetter] using hletter)]

/-- The letter of dice is no digit. -/
theorem isDecimalDigit_of_isDieLetter {c : Char} (h : IsDieLetter c) :
    isDecimalDigit c = false := by
  rcases h with rfl | rfl <;> decide

/-- Behind the sides of dice stands no digit. -/
theorem ModifierBefore.not_digit_head {modifier rest : List Char}
    (h : ModifierBefore modifier rest) (hedge : isWordEdge rest.head? = true) :
    ∀ c, (modifier ++ rest).head? = some c → isDecimalDigit c = false := by
  rcases h with ⟨blanks, sign, blanks', digits, rfl, hblanks, hsign, -⟩ | ⟨rfl, -⟩
  · intro c hc
    cases blanks with
    | nil =>
      simp only [List.nil_append, List.cons_append, List.head?_cons, Option.some.injEq] at hc
      rw [← hc]
      exact isDecimalDigit_of_sign hsign
    | cons blank blanks =>
      simp only [List.cons_append, List.head?_cons, Option.some.injEq] at hc
      rw [← hc]
      exact isDecimalDigit_of_isBlank (hblanks blank List.mem_cons_self)
  · exact isDecimalDigit_of_edge hedge

/-- Dice that are written out: perhaps their number, the letter, the sides, perhaps a modifier, and
behind all that nothing that a word could run into. -/
theorem matchDice_eq_some_iff {before : Option Char} {cs : List Char} {m : Match} :
    matchDice before cs = some m ↔
      isWordEdge before = true ∧ ∃ count letter sides modifier rest,
        cs = count ++ letter :: sides ++ modifier ++ rest ∧
        (∀ c ∈ count, isDecimalDigit c = true) ∧ IsDieLetter letter ∧ IsNumber sides ∧
        ModifierBefore modifier rest ∧ isWordEdge rest.head? = true ∧
        m = ⟨[], count ++ letter :: sides ++ modifier, [], rest,
          dicePiece (count ++ letter :: sides ++ modifier)⟩ := by
  constructor
  · intro h
    unfold matchDice at h
    split at h
    · rename_i hbefore
      obtain ⟨⟨letters, more⟩, hletters, hmore⟩ := Option.bind_eq_some_iff.1 h
      obtain ⟨⟨sides, rest⟩, hsides, hfinal⟩ := Option.bind_eq_some_iff.1 hmore
      obtain ⟨letter, hletter, hfront, hback⟩ := takeDieLetter_eq_some_iff.1 hletters
      obtain ⟨hsplit, hnumber, -⟩ := takeNumber_eq_some_iff.1 hsides
      dsimp only at hsplit
      have hcs : cs = cs.takeWhile isDecimalDigit ++ letter :: (sides ++ rest) := by
        rw [← hsplit, ← hback, List.takeWhile_append_dropWhile]
      have hcount : ∀ c ∈ cs.takeWhile isDecimalDigit, isDecimalDigit c = true :=
        fun c hc => List.mem_takeWhile_imp hc
      subst hfront
      split at hfinal
      · rename_i modifier hmodifier
        obtain ⟨hrest, hisModifier, hedge⟩ := takeModifier_eq_some_iff.1 hmodifier
        dsimp only at hrest
        refine ⟨hbefore, cs.takeWhile isDecimalDigit, letter, sides, modifier.1, modifier.2, ?_,
          hcount, hletter, hnumber, Or.inl hisModifier, hedge, ?_⟩
        · rw [hrest] at hcs
          simpa using hcs
        · rw [← Option.some.inj hfinal]
          simp
      · rename_i hnone
        split at hfinal
        · rename_i hedge
          refine ⟨hbefore, cs.takeWhile isDecimalDigit, letter, sides, [], rest, ?_, hcount,
            hletter, hnumber, Or.inr ⟨rfl, hnone⟩, hedge, ?_⟩
          · simpa using hcs
          · rw [← Option.some.inj hfinal]
            simp
        · cases hfinal
    · cases h
  · rintro ⟨hbefore, count, letter, sides, modifier, rest, rfl, hcount, hletter, hnumber,
      hmodifier, hedge, rfl⟩
    have hcs : count ++ letter :: sides ++ modifier ++ rest =
        count ++ (letter :: (sides ++ (modifier ++ rest))) := by
      simp
    have hhead : ∀ c, (letter :: (sides ++ (modifier ++ rest))).head? = some c →
        isDecimalDigit c = false := by
      simpa using isDecimalDigit_of_isDieLetter hletter
    have hruns := takeWhile_dropWhile_append hcount hhead
    have hletters : takeDieLetter (letter :: (sides ++ (modifier ++ rest))) =
        some ([letter], sides ++ (modifier ++ rest)) :=
      takeDieLetter_eq_some_iff.2 ⟨letter, hletter, rfl, rfl⟩
    have hsides : takeNumber (sides ++ (modifier ++ rest)) = some (sides, modifier ++ rest) :=
      takeNumber_eq_some_iff.2 ⟨rfl, hnumber, hmodifier.not_digit_head hedge⟩
    rw [hcs, matchDice, if_pos hbefore, hruns.1, hruns.2]
    simp only [hletters, hsides, Option.bind_some]
    rcases hmodifier with hisModifier | ⟨rfl, hnone⟩
    · have htaken : takeModifier (modifier ++ rest) = some (modifier, rest) :=
        takeModifier_eq_some_iff.2 ⟨rfl, hisModifier, hedge⟩
      simp [htaken]
    · simp [hnone, hedge]

/-! ## Saving throws -/

/-- Letters, at least one. -/
structure IsWord (cs : List Char) : Prop where
  ne_nil : cs ≠ []
  letters : ∀ c ∈ cs, c.isAlpha = true

/-- A word is a run of ASCII letters. -/
theorem takeLetters_eq_takeRun (cs : List Char) : takeLetters cs = takeRun Char.isAlpha cs := by
  unfold takeLetters takeRun
  split <;> simp_all

/-- What is taken as a word: all letters that stand there. -/
theorem takeLetters_eq_some_iff {cs front back : List Char} :
    takeLetters cs = some (front, back) ↔
      cs = front ++ back ∧ IsWord front ∧ ∀ c, back.head? = some c → c.isAlpha = false := by
  rw [takeLetters_eq_takeRun, takeRun_eq_some_iff]
  constructor
  · rintro ⟨hcs, hne, hletters, hback⟩
    exact ⟨hcs, ⟨hne, hletters⟩, hback⟩
  · rintro ⟨hcs, hword, hback⟩
    exact ⟨hcs, hword.ne_nil, hword.letters, hback⟩

/-- What is taken as a single character. -/
theorem takeChar_eq_some_iff {c : Char} {cs front back : List Char} :
    takeChar c cs = some (front, back) ↔ front = [c] ∧ cs = c :: back := by
  cases cs with
  | nil => simp [takeChar]
  | cons d cs =>
    rw [takeChar]
    split
    · rename_i hd
      subst hd
      simp [eq_comm]
    · rename_i hd
      simp [hd]

/-- What is taken as the words for a difficulty class, which are not taken in another case. -/
theorem takeDC_eq_some_iff {cs front back : List Char} :
    takeDC cs = some (front, back) ↔ front = "DC ".toList ∧ cs = "DC ".toList ++ back := by
  constructor
  · intro h
    have hcs := takeDC_append h
    unfold takeDC at h
    split at h
    · cases h
      exact ⟨rfl, rfl⟩
    · cases h
  · rintro ⟨rfl, rfl⟩
    rfl

/-- The difficulty of a saving throw: the capitals `DC`, the number, the ability, and the words. -/
theorem matchSave_eq_some_iff {before : Option Char} {cs : List Char} {m : Match} :
    matchSave before cs = some m ↔
      isWordEdge before = true ∧ ∃ dc ability words rest,
        cs = "DC ".toList ++ dc ++ ' ' :: ability ++ ' ' :: words ++ rest ∧ IsNumber dc ∧
        IsWord ability ∧ words.map foldCase = "saving throw".toList ∧
        m = ⟨"DC ".toList, dc, ' ' :: ability ++ ' ' :: words, rest, savePiece dc ability⟩ := by
  constructor
  · intro h
    unfold matchSave at h
    split at h
    · rename_i hbefore
      obtain ⟨⟨capitals, h₁⟩, hcapitals, h⟩ := Option.bind_eq_some_iff.1 h
      obtain ⟨⟨dc, h₂⟩, hdc, h⟩ := Option.bind_eq_some_iff.1 h
      obtain ⟨⟨space, h₃⟩, hspace, h⟩ := Option.bind_eq_some_iff.1 h
      obtain ⟨⟨ability, h₄⟩, hability, h⟩ := Option.bind_eq_some_iff.1 h
      obtain ⟨⟨space', h₅⟩, hspace', h⟩ := Option.bind_eq_some_iff.1 h
      obtain ⟨⟨words, rest⟩, hwords, rfl⟩ := Option.map_eq_some_iff.1 h
      obtain ⟨rfl, rfl⟩ := takeDC_eq_some_iff.1 hcapitals
      obtain ⟨hsplit₁, hnumber, -⟩ := takeNumber_eq_some_iff.1 hdc
      obtain ⟨rfl, hsplit₂⟩ := takeChar_eq_some_iff.1 hspace
      obtain ⟨hsplit₃, hword, -⟩ := takeLetters_eq_some_iff.1 hability
      obtain ⟨rfl, hsplit₄⟩ := takeChar_eq_some_iff.1 hspace'
      obtain ⟨hsplit₅, hfold⟩ := takeCaseless_eq_some_iff.1 hwords
      dsimp only at hsplit₁ hsplit₂ hsplit₃ hsplit₄ hsplit₅
      refine ⟨hbefore, dc, ability, words, rest, ?_, hnumber, hword, hfold, ?_⟩
      · rw [hsplit₁, hsplit₂, hsplit₃, hsplit₄, hsplit₅]
        simp
      · simp
    · cases h
  · rintro ⟨hbefore, dc, ability, words, rest, rfl, hnumber, hword, hfold, rfl⟩
    have hcs : "DC ".toList ++ dc ++ ' ' :: ability ++ ' ' :: words ++ rest =
        "DC ".toList ++ (dc ++ (' ' :: (ability ++ (' ' :: (words ++ rest))))) := by
      simp
    have hcapitals : takeDC ("DC ".toList ++
        (dc ++ (' ' :: (ability ++ (' ' :: (words ++ rest)))))) = _ :=
      takeDC_eq_some_iff.2 ⟨rfl, rfl⟩
    have hdc : takeNumber (dc ++ (' ' :: (ability ++ (' ' :: (words ++ rest))))) = _ :=
      takeNumber_eq_some_iff.2 ⟨rfl, hnumber, by simp; decide⟩
    have hability : takeLetters (ability ++ (' ' :: (words ++ rest))) = _ :=
      takeLetters_eq_some_iff.2 ⟨rfl, hword, by simp⟩
    have hwords : takeCaseless "saving throw".toList (words ++ rest) = some (words, rest) :=
      takeCaseless_eq_some_iff.2 ⟨rfl, hfold⟩
    rw [hcs, matchSave, if_pos hbefore, hcapitals]
    simp only [Option.bind_some, hdc, takeChar, if_true, hability, hwords, Option.map_some]
    simp

end Rollable
end DiceRoller
