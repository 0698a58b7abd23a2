import DiceRoller.Proofs.Scan.Locality.Dice

/-!
# The pattern for saving throws is local

A difficulty stands between `DC ` and the words ` saving throw`, with an ability in front of them.  Its
capitals are letters, and no modifier of dice runs over them.

Main results:

- Theorem `takeModifier_append_difficulty`: no modifier runs into a difficulty.
- Theorem `apart_save`: no difficulty begins inside another one.
- Theorem `local_save`: the laws.
-/

namespace DiceRoller

open Text

namespace Rollable

theorem IsModifier.exists_sign {cs : List Char} (h : IsModifier cs) :
    ∃ c ∈ cs, c = '+' ∨ c = '-' := by
  rcases h with ⟨blanks, sign, blanks', digits, rfl, -, hsign, -, -⟩
  exact ⟨sign, by simp, hsign⟩

theorem not_mem_modifier_C {cs : List Char} (h : IsModifier cs) : 'C' ∉ cs := by
  intro hc
  rcases h.mem hc with hblank | hsign | hdigit
  · revert hblank
    decide
  · revert hsign
    decide
  · revert hdigit
    decide +kernel

/-- No modifier runs into the number of a difficulty: there is no room for its sign. -/
theorem takeModifier_append_difficulty {passed front back dc tail : List Char}
    (hback : passed ++ "DC ".toList = front ++ back) (hnone : takeModifier back = none)
    (hnumber : IsNumber dc) : takeModifier (back ++ (dc ++ tail)) = none := by
  by_contra hsome
  rcases Option.ne_none_iff_exists'.1 hsome with ⟨⟨modifier, rest⟩, htaken⟩
  have hedge : isWordEdge back.getLast? = true := by
    have hlast : isWordEdge (passed ++ "DC ".toList).getLast? = true := by
      have hspace : "DC ".toList.getLast? = some ' ' := rfl
      rw [List.getLast?_append, hspace, Option.some_or]
      decide +kernel
    rw [hback] at hlast
    exact isWordEdge_getLast?_drop hlast
  rcases exists_run_of_takeModifier hnone htaken hedge with ⟨run, hne, hmod, hrun⟩
  rcases takeModifier_eq_some_iff.1 htaken with ⟨-, hmodifier, -⟩
  have hrunHead : ∃ c, run.head? = some c ∧ Text.isWordChar c = true := by
    cases run with
    | nil => exact absurd rfl hne
    | cons c run =>
      rcases List.exists_cons_of_ne_nil hnumber.ne_nil with ⟨d, dc', rfl⟩
      have hc : c = d := (List.cons.inj hrun).1.symm
      exact ⟨c, rfl, by rw [hc]; exact hnumber.isWordChar d List.mem_cons_self⟩
  rcases hrunHead with ⟨c, hc, hword⟩
  have hdigits := hmodifier.digits_of_digit hmod hc hword
  -- So the sign stands in what is left of `DC ` in front of the run.
  rcases hmodifier.exists_sign with ⟨sign, hmem, hsign⟩
  rw [hmod, List.mem_append] at hmem
  have hC : 'C' ∉ back := by
    intro h
    apply not_mem_modifier_C hmodifier
    rw [hmod]
    exact List.mem_append_left run h
  rcases hmem with hmem | hmem
  · have hsplit : (passed ++ ['D']) ++ ['C', ' '] = front ++ back := by
      rw [← hback]
      simp
    rcases List.append_eq_append_iff.1 hsplit with ⟨zs, hfront, htail⟩ | ⟨zs, hpassed, htail⟩
    · cases zs with
      | nil =>
        rw [List.nil_append] at htail
        apply hC
        rw [← htail]
        exact List.mem_cons_self
      | cons z zs =>
        have hrest : [' '] = zs ++ back := (List.cons.inj htail).2
        have hblank : sign ∈ [' '] := by
          rw [hrest]
          exact List.mem_append_right zs hmem
        rw [List.mem_singleton.1 hblank] at hsign
        revert hsign
        decide
    · apply hC
      rw [htail]
      exact List.mem_append_right zs List.mem_cons_self
  · have hdigit := hdigits sign hmem
    have hsignWord := isWordChar_of_isDecimalDigit hdigit
    rw [isWordChar_of_sign hsign] at hsignWord
    cases hsignWord

/-- A difficulty begins with a capital. -/
theorem matchSave_eq_none {before : Option Char} {cs : List Char} (h : cs.head? ≠ some 'D') :
    matchSave before cs = none := by
  by_contra hsome
  rcases Option.ne_none_iff_exists'.1 hsome with ⟨m, hm⟩
  rcases matchSave_eq_some_iff.1 hm with ⟨-, dc, ability, words, rest, rfl, -⟩
  exact h rfl

theorem not_mem_of_savingThrow {words : List Char}
    (h : words.map foldCase = "saving throw".toList) : 'D' ∉ words :=
  not_mem_of_foldCase h (by decide)

theorem IsNumber.not_mem {cs : List Char} (h : IsNumber cs) : 'D' ∉ cs := by
  intro hmem
  have hdigit := h.digits 'D' hmem
  revert hdigit
  decide +kernel

/-- A difficulty does not begin with the ability of another one: there is no number behind it. -/
theorem not_difficulty_of_ability {ability words rest dc tail : List Char} (hability : IsWord ability)
    (hwords : words.map foldCase = "saving throw".toList) (hnumber : IsNumber dc) :
    ability ++ ' ' :: words ++ rest ≠ "DC ".toList ++ dc ++ tail := by
  intro h
  have hDC : IsWord ['D', 'C'] := ⟨by simp, List.all_eq_true.1 (by decide)⟩
  have hfirst : takeLetters (ability ++ (' ' :: (words ++ rest))) =
      some (ability, ' ' :: (words ++ rest)) :=
    takeLetters_eq_some_iff.2 ⟨rfl, hability, by simp⟩
  have hsecond : takeLetters (['D', 'C'] ++ (' ' :: (dc ++ tail))) =
      some (['D', 'C'], ' ' :: (dc ++ tail)) :=
    takeLetters_eq_some_iff.2 ⟨rfl, hDC, by simp⟩
  have hsame : ability ++ (' ' :: (words ++ rest)) = ['D', 'C'] ++ (' ' :: (dc ++ tail)) := by
    simpa using h
  rw [hsame, hsecond, Option.some.injEq, Prod.mk.injEq] at hfirst
  have htail : dc ++ tail = words ++ rest := (List.cons.inj hfirst.2).2
  rcases List.exists_cons_of_ne_nil hnumber.ne_nil with ⟨d, dc', rfl⟩
  cases words with
  | nil => simp at hwords
  | cons w words =>
    have hw : foldCase w = 's' := (List.cons.inj hwords).1
    have hd : d = w := (List.cons.inj htail).1
    have hfold := isAlpha_foldCase_of_isDecimalDigit (hnumber.digits d List.mem_cons_self)
    rw [hd, hw] at hfold
    revert hfold
    decide

/-- In front of a number there is no other capital than the first one. -/
theorem IsNumber.not_mem_opening {dc : List Char} (h : IsNumber dc) :
    'D' ∉ 'C' :: ' ' :: (dc ++ [' ']) := by
  intro hmem
  simp only [List.mem_cons, List.mem_append, List.not_mem_nil, or_false] at hmem
  rcases hmem with hC | hspace | hdigit | hspace
  · revert hC
    decide
  · revert hspace
    decide
  · exact h.not_mem hdigit
  · revert hspace
    decide

/-- A capital behind the first letter of an ability stands in the ability, behind a letter. -/
theorem endsWord_of_capital {ability words rest front back : List Char} (hability : IsWord ability)
    (hwords : words.map foldCase = "saving throw".toList)
    (heq : ability ++ ' ' :: words ++ rest = front ++ back) (hne : front ≠ [])
    (hlt : front.length < (ability ++ ' ' :: words).length) (hback : back.head? = some 'D') :
    EndsWord front := by
  rcases exists_of_split heq hlt with ⟨c, zs, hinside, hrest⟩
  have hc : c = 'D' := by
    rw [hrest] at hback
    exact Option.some.inj hback
  rcases List.append_eq_append_iff.1 hinside with ⟨us, -, hzs⟩ | ⟨us, hletters, -⟩
  · have hmem : 'D' ∈ ' ' :: words := by
      rw [hzs, hc]
      exact List.mem_append_right us List.mem_cons_self
    rcases List.mem_cons.1 hmem with hspace | hmemWords
    · exact absurd hspace (by decide)
    · exact absurd hmemWords (not_mem_of_savingThrow hwords)
  · apply endsWord_of_forall hne
    intro c hc
    apply isWordChar_of_isAlpha
    apply hability.letters
    rw [hletters]
    exact List.mem_append_left us hc

theorem apart_save {before : Option Char} {cs front back : List Char} {m : Match}
    (h : matchSave before cs = some m) (hcs : cs = front ++ back) (hne : front ≠ [])
    (hlt : front.length < m.whole.length) : matchSave front.getLast? back = none := by
  by_contra hsome
  rcases Option.ne_none_iff_exists'.1 hsome with ⟨m', hm'⟩
  rcases matchSave_eq_some_iff.1 h with
    ⟨-, dc, ability, words, rest, rfl, hnumber, hability, hwords, rfl⟩
  rcases matchSave_eq_some_iff.1 hm' with
    ⟨hedge, dc', ability', words', rest', hback, hnumber', -, -, -⟩
  have hD : back.head? = some 'D' := by
    rw [hback]
    rfl
  have hdifficulty : back = "DC ".toList ++ dc' ++ (' ' :: ability' ++ ' ' :: words' ++ rest') := by
    rw [hback]
    simp only [List.append_assoc]
  -- The capital can only stand in the ability, and there only at its start.
  have hsplit : ("DC ".toList ++ dc ++ [' ']) ++ (ability ++ ' ' :: words ++ rest) =
      front ++ back := by
    rw [← hcs]
    simp
  rcases List.append_eq_append_iff.1 hsplit with ⟨zs, hfront, htail⟩ | ⟨zs, hbegin, htail⟩
  · by_cases hzs : zs = []
    · rw [hzs, List.nil_append] at htail
      exact not_difficulty_of_ability hability hwords hnumber' (htail.trans hdifficulty)
    · have hshort : zs.length < (ability ++ ' ' :: words).length := by
        simp only [Match.whole, hfront, List.length_append, List.length_cons, List.length_nil] at hlt
        simp only [List.length_append, List.length_cons]
        omega
      have hletters := endsWord_of_capital hability hwords htail hzs hshort hD
      rw [hfront] at hedge
      exact (hletters.append _).not_edge hedge
  · cases zs with
    | nil =>
      rw [List.nil_append] at htail
      exact not_difficulty_of_ability hability hwords hnumber' (htail.symm.trans hdifficulty)
    | cons z zs =>
      have hz : z = 'D' := by
        rw [htail] at hD
        exact Option.some.inj hD
      rcases List.exists_cons_of_ne_nil hne with ⟨f, front', rfl⟩
      have heq : 'C' :: ' ' :: (dc ++ [' ']) = front' ++ z :: zs := (List.cons.inj hbegin).2
      apply hnumber.not_mem_opening
      rw [heq, hz]
      exact List.mem_append_right front' List.mem_cons_self

theorem local_save : save.Local DiceSeam FollowsToken where
  joins_nil := diceSeam_nil
  joins_drop := DiceSeam.drop
  joins_lead := by
    intro passed before cs m piece h _ _
    rcases matchSave_eq_some_iff.1 h with
      ⟨-, dc, ability, words, rest, -, hnumber, -, -, rfl⟩
    constructor
    · left
      have hspace : "DC ".toList.getLast? = some ' ' := rfl
      rw [List.getLast?_append, hspace, Option.some_or]
      decide +kernel
    · intro front back heq hnone
      rw [List.append_assoc]
      exact takeModifier_append_difficulty heq hnone hnumber
  extends_right := by
    intro before slice behind m h _
    rcases matchSave_eq_some_iff.1 h with
      ⟨hbefore, dc, ability, words, rest, rfl, hparts⟩
    rcases hparts with ⟨hnumber, hability, hwords, rfl⟩
    apply matchSave_eq_some_iff.2
    refine ⟨hbefore, dc, ability, words, rest ++ behind, ?_, hnumber, hability, hwords, rfl⟩
    simp only [List.append_assoc]
  apart h hcs hne hlt _ := apart_save h hcs hne hlt
  silent_tail := by
    intro before cs m rest h _
    rcases matchSave_eq_some_iff.1 h with ⟨-, dc, ability, words, rest', -, -, -, -, rfl⟩
    show matchSave none (' ' :: ability ++ ' ' :: words ++ rest) = none
    exact matchSave_eq_none (by simp)
  restart := by
    intro before cs m piece rest h _ htail _
    rcases matchSave_eq_some_iff.1 h with ⟨-, dc, ability, words, rest', -, -, -, -, rfl⟩
    cases htail
  follows := by
    intro before cs m piece rest h hpiece _
    have htoken := onlyToken_matchSave h piece hpiece
    rcases matchSave_eq_some_iff.1 h with ⟨-, dc, ability, words, rest', -, -, -, -, rfl⟩
    refine ⟨htoken, ?_⟩
    show isWordEdge (some ' ') = true
    decide +kernel
  not_text := by
    intro before cs m piece h hpiece body
    rcases onlyToken_matchSave h piece hpiece with ⟨t, rfl⟩
    simp

end Rollable
end DiceRoller
