import Mathlib.Tactic.IntervalCases
import DiceRoller.Proofs.Scan.Locality.Seam

/-!
# The patterns for attacks are local

A bonus is marked as rollable by the words around it, `Attack:` in front of it or ` to hit` behind it.
Neither of them holds the beginning of another match of the same pattern.

Main results:

- Theorems `apart_labelled` and `apart_toHit`: no match begins inside another one.
- Theorems `local_labelled` and `local_toHit`: the laws.
-/

namespace DiceRoller

open Text

namespace Rollable

/-! ## Bonuses behind `Attack:` -/

/-- A labelled bonus begins with a letter. -/
theorem matchLabelled_eq_none {before : Option Char} {cs : List Char}
    (h : isWordEdge before = true → ∀ c, cs.head? = some c → foldCase c ≠ 'a') :
    matchLabelled before cs = none := by
  by_contra hsome
  rcases Option.ne_none_iff_exists'.1 hsome with ⟨m, hm⟩
  rcases matchLabelled_eq_some_iff.1 hm with
    ⟨hbefore, word, space, bonus, rest, rfl, hword, -⟩
  cases word with
  | nil => cases hword
  | cons c word => exact h hbefore c rfl (List.cons.inj hword).1

/-- The label begins with a character of a word. -/
theorem matchLabelled_of_edge {before : Option Char} {cs : List Char}
    (h : isWordEdge cs.head? = true) : matchLabelled before cs = none := by
  apply matchLabelled_eq_none
  intro _ c hc hfold
  have hword : Text.isWordChar c = true := isWordChar_of_foldCase (by rw [hfold]; decide)
  rw [hc, isWordEdge_some, hword] at h
  cases h

/-- The letter at which a labelled bonus begins comes in `Attack:` at its start and behind another
letter. -/
theorem eq_three_of_fold {n : Nat} (hpos : 0 < n) (h : "attack:".toList[n]? = some 'a') :
    n = 3 := by
  by_contra hne
  have hlt : n < "attack:".toList.length := by
    by_contra hge
    rw [List.getElem?_eq_none (by omega)] at h
    cases h
  have hbound : n < 7 := hlt
  interval_cases n <;> simp_all

/-- No labelled bonus begins inside another. -/
theorem apart_labelled {before : Option Char} {cs front back : List Char} {m : Match}
    (h : matchLabelled before cs = some m) (hcs : cs = front ++ back) (hne : front ≠ [])
    (hlt : front.length < m.whole.length) : matchLabelled front.getLast? back = none := by
  rcases matchLabelled_eq_some_iff.1 h with
    ⟨-, word, space, bonus, rest, rfl, hword, hspace, hbonus, -, rfl⟩
  simp only [Match.whole, List.append_nil] at hlt
  apply matchLabelled_eq_none
  intro hedge c hc hfold
  rw [List.append_assoc, List.append_assoc] at hcs
  rcases List.append_eq_append_iff.1 hcs with ⟨zs, rfl, htail⟩ | ⟨zs, rfl, htail⟩
  · -- Behind the colon there are no letters.
    rw [← List.append_assoc] at htail
    have hshort : zs.length < (space ++ bonus).length := by
      simp only [List.length_append] at hlt ⊢
      omega
    have hmem := mem_of_split htail hshort hc
    have hletter : (foldCase c).isAlpha = false := by
      rcases List.mem_append.1 hmem with hmem | hmem
      · rcases hspace with rfl | rfl
        · cases hmem
        · rw [List.mem_singleton.1 hmem]
          decide
      · exact hbonus.isAlpha_foldCase c hmem
    rw [hfold] at hletter
    revert hletter
    decide
  · cases zs with
    | nil =>
      have hhead : c = ' ' ∨ c = '+' ∨ c = '-' := by
        rcases hspace with rfl | rfl
        · rcases hbonus.head with ⟨sign, hsign, heq⟩
          rw [htail, List.nil_append, List.nil_append, List.head?_append, hsign] at hc
          cases hc
          exact Or.inr heq
        · rw [htail] at hc
          cases hc
          exact Or.inl rfl
      rcases hhead with rfl | rfl | rfl <;> revert hfold <;> decide
    | cons z zs =>
      have hz : (z :: zs).head? = some c := by
        rw [htail] at hc
        exact hc
      have hplace := foldCase_head hz hword
      rw [hfold] at hplace
      have hthree := eq_three_of_fold (List.length_pos_iff.2 hne) hplace
      rcases List.getLast?_isSome.2 hne |> Option.isSome_iff_exists.1 with ⟨d, hd⟩
      have hlast := foldCase_last hd hword
      rw [hthree] at hlast
      have hletter : (foldCase d).isAlpha = true := by
        have hd' : foldCase d = 't' := by simpa using hlast.symm
        rw [hd']
        decide
      rw [hd, isWordEdge_some, isWordChar_of_foldCase hletter] at hedge
      cases hedge

/-- The pattern for labelled bonuses depends on nothing far away. -/
theorem local_labelled : labelled.Local WordSeam FollowsToken where
  joins_nil := wordSeam_nil
  joins_drop := WordSeam.drop
  joins_lead := by
    intro passed before cs m piece h _ _
    rcases matchLabelled_eq_some_iff.1 h with
      ⟨-, word, space, bonus, rest, -, -, -, hbonus, -, rfl⟩
    rcases hbonus.head with ⟨sign, hhead, hsign⟩
    right
    rw [List.append_assoc, List.head?_append, hhead, Option.some_or, isWordEdge_some,
      isWordChar_of_sign hsign]
    rfl
  extends_right := by
    intro before slice behind m h hseam
    rcases matchLabelled_eq_some_iff.1 h with
      ⟨hbefore, word, space, bonus, rest, rfl, hword, hspace, hbonus, hedge, rfl⟩
    apply matchLabelled_eq_some_iff.2
    refine ⟨hbefore, word, space, bonus, rest ++ behind, ?_, hword, hspace, hbonus, ?_, rfl⟩
    · simp only [List.append_assoc]
    · exact hseam.edge_append (hbonus.endsWord.append _) hedge
  apart h hcs hne hlt _ := apart_labelled h hcs hne hlt
  silent_tail := by
    intro before cs m rest h htail
    rcases matchLabelled_eq_some_iff.1 h with ⟨-, word, space, bonus, rest', -, -, -, -, -, rfl⟩
    exact absurd rfl htail
  restart := by
    intro before cs m piece rest h _ _ hrest
    rcases matchLabelled_eq_some_iff.1 h with
      ⟨-, word, space, bonus, rest', -, -, -, -, hedge, rfl⟩
    have hrestEdge := isWordEdge_of_prefix hrest hedge
    show matchLabelled none rest = matchLabelled _ rest
    rw [matchLabelled_of_edge hrestEdge, matchLabelled_of_edge hrestEdge]
  follows := by
    intro before cs m piece rest h hpiece hrest
    have htoken := onlyToken_matchLabelled h piece hpiece
    rcases matchLabelled_eq_some_iff.1 h with
      ⟨-, word, space, bonus, rest', -, -, -, -, hedge, rfl⟩
    exact ⟨htoken, isWordEdge_of_prefix hrest hedge⟩
  not_text := by
    intro before cs m piece h hpiece body
    rcases onlyToken_matchLabelled h piece hpiece with ⟨t, rfl⟩
    simp

/-! ## Bonuses in front of ` to hit` -/

/-- The character in front of a bonus that is part of the match, if there is one. -/
def IsLead (before : Option Char) (lead : List Char) : Prop :=
  (before = none ∧ lead = []) ∨ ∃ c, lead = [c] ∧ Text.isWordChar c = false

/-- A bonus in front of the words ` to hit`, with the character in front of it. -/
theorem matchToHit_eq_some_parts {before : Option Char} {cs : List Char} {m : Match} :
    matchToHit before cs = some m ↔ ∃ lead bonus words rest,
      cs = lead ++ bonus ++ words ++ rest ∧ IsLead before lead ∧ IsBonus bonus ∧
      words.map foldCase = " to hit".toList ∧ isWordEdge rest.head? = true ∧
      m = ⟨lead, bonus, words, rest, attackPiece bonus⟩ := by
  rw [matchToHit_eq_some_iff]
  constructor
  · intro h
    rcases h with ⟨hbefore, hm⟩ | ⟨c, cs', rfl, hc, hm⟩
    · rcases matchBonusToHit_eq_some_iff.1 hm with ⟨bonus, words, rest, rfl, hparts⟩
      exact ⟨[], bonus, words, rest, rfl, Or.inl ⟨hbefore, rfl⟩, hparts⟩
    · rcases matchBonusToHit_eq_some_iff.1 hm with ⟨bonus, words, rest, rfl, hparts⟩
      exact ⟨[c], bonus, words, rest, rfl, Or.inr ⟨c, rfl, hc⟩, hparts⟩
  · intro h
    rcases h with ⟨lead, bonus, words, rest, rfl, ⟨hbefore, rfl⟩ | ⟨c, rfl, hc⟩, hparts⟩
    · left
      exact ⟨hbefore, matchBonusToHit_eq_some_iff.2 ⟨bonus, words, rest, rfl, hparts⟩⟩
    · right
      refine ⟨c, bonus ++ words ++ rest, by simp, hc, ?_⟩
      exact matchBonusToHit_eq_some_iff.2 ⟨bonus, words, rest, rfl, hparts⟩

/-- A spelling of ` to hit` holds no sign. -/
theorem not_sign_of_mem_words {words : List Char} {c : Char}
    (h : words.map foldCase = " to hit".toList) (hc : c ∈ words) : ¬ (c = '+' ∨ c = '-') := by
  intro hsign
  rcases hsign with rfl | rfl
  · exact not_mem_of_foldCase h (by decide) hc
  · exact not_mem_of_foldCase h (by decide) hc

/-- Behind its sign a match holds no further sign. -/
theorem not_sign_of_mem {digits words : List Char} {c : Char} (hnumber : IsNumber digits)
    (hwords : words.map foldCase = " to hit".toList) (hc : c ∈ digits ++ words) :
    ¬ (c = '+' ∨ c = '-') := by
  rcases List.mem_append.1 hc with hc | hc
  · intro hsign
    have hword := hnumber.isWordChar c hc
    rw [isWordChar_of_sign hsign] at hword
    cases hword
  · exact not_sign_of_mem_words hwords hc

/-- No bonus to hit begins inside another. -/
theorem apart_toHit {before : Option Char} {cs front back : List Char} {m : Match}
    (h : matchToHit before cs = some m) (hcs : cs = front ++ back) (hne : front ≠ [])
    (hlt : front.length < m.whole.length) : matchToHit front.getLast? back = none := by
  by_contra hsome
  rcases Option.ne_none_iff_exists'.1 hsome with ⟨m', hm'⟩
  rcases matchToHit_eq_some_parts.1 h with
    ⟨lead, _, words, rest, rfl, hlead, ⟨sign, digits, rfl, hsign, hnumber⟩, hwords, -, rfl⟩
  rcases matchToHit_eq_some_parts.1 hm' with
    ⟨lead', _, words', rest', rfl, hlead', ⟨sign', digits', rfl, hsign', -⟩, -, -, -⟩
  have hleadLength : lead.length ≤ 1 := by
    rcases hlead with ⟨-, rfl⟩ | ⟨c, rfl, -⟩
    · exact Nat.zero_le 1
    · exact Nat.le_refl 1
  -- The lead of the second match is a character `c`, and its sign comes right behind it.
  rcases hlead' with ⟨hstart, -⟩ | ⟨c, rfl, hc⟩
  · exact hne (List.getLast?_eq_none_iff.1 hstart)
  · have hfront := List.length_pos_iff.2 hne
    simp only [Match.whole, List.length_append, List.length_cons] at hlt
    have hsplit : (lead ++ [sign]) ++ ((digits ++ words) ++ rest) =
        (front ++ [c]) ++ (sign' :: (digits' ++ words' ++ rest')) := by
      simpa using hcs
    rcases List.append_eq_append_iff.1 hsplit with ⟨zs, heq, htail⟩ | ⟨zs, heq, htail⟩
    · have hlength := congrArg List.length heq
      simp only [List.length_append, List.length_cons, List.length_nil] at hlength
      by_cases hshort : zs.length < (digits ++ words).length
      · exact not_sign_of_mem hnumber hwords (mem_of_split htail hshort rfl) hsign'
      · -- The lead of the second match would be the last letter of the first one.
        rw [List.length_append] at hshort
        have hzs : zs = digits ++ words := by
          have hsame : (digits ++ words).length = zs.length := by
            rw [List.length_append]
            omega
          exact (List.append_inj htail hsame).1.symm
        have hends : EndsWord (front ++ [c]) := by
          rw [heq, hzs, ← List.append_assoc]
          exact (endsWord_of_map_foldCase hwords rfl (by decide)).append _
        rcases hends with ⟨d, hd, hword⟩
        rw [List.getLast?_concat, Option.some.injEq] at hd
        rw [← hd, hc] at hword
        cases hword
    · have hlength := congrArg List.length heq
      simp only [List.length_append, List.length_cons, List.length_nil] at hlength
      have hzs : zs = [] := List.eq_nil_of_length_eq_zero (by omega)
      rw [hzs, List.nil_append] at htail
      have hstart : digits ++ words ++ rest = [] ++ (sign' :: (digits' ++ words' ++ rest')) :=
        htail.symm
      have hpos : ([] : List Char).length < (digits ++ words).length :=
        List.length_pos_iff.2 (by simp [hnumber.ne_nil])
      exact not_sign_of_mem hnumber hwords (mem_of_split hstart hpos rfl) hsign'

/-- The words behind a bonus are no bonus. -/
theorem matchToHit_of_words {words rest : List Char}
    (h : words.map foldCase = " to hit".toList) : matchToHit none (words ++ rest) = none := by
  by_contra hsome
  rcases Option.ne_none_iff_exists'.1 hsome with ⟨m, hm⟩
  rcases matchToHit_eq_some_parts.1 hm with
    ⟨lead, _, words', rest', hcs, hlead, ⟨sign, digits, rfl, hsign, -⟩, -, -, -⟩
  cases words with
  | nil => cases h
  | cons c words =>
    rcases hlead with ⟨-, rfl⟩ | ⟨d, rfl, -⟩
    · have hc : c = sign := by simpa using (List.cons.inj hcs).1
      exact not_sign_of_mem_words h List.mem_cons_self (by rwa [hc])
    · cases words with
      | nil => simp at h
      | cons c' words =>
        have hc : c' = sign := by
          have htail := (List.cons.inj hcs).2
          simpa using (List.cons.inj htail).1
        exact not_sign_of_mem_words h (List.mem_cons_of_mem c List.mem_cons_self) (by rwa [hc])

/-- They begin with a blank. -/
theorem head_of_words {words : List Char} (h : words.map foldCase = " to hit".toList) :
    words.head? = some ' ' := by
  cases words with
  | nil => cases h
  | cons c words =>
    have hc : foldCase c = ' ' := (List.cons.inj h).1
    rw [List.head?_cons, eq_of_foldCase_eq hc (by decide)]

/-- The pattern for bonuses to hit depends on nothing far away. -/
theorem local_toHit : toHit.Local WordSeam FollowsToken where
  joins_nil := wordSeam_nil
  joins_drop := WordSeam.drop
  joins_lead := by
    intro passed before cs m piece h _ _
    rcases matchToHit_eq_some_parts.1 h with
      ⟨lead, bonus, words, rest, -, -, hbonus, -, -, rfl⟩
    rcases hbonus.head with ⟨sign, hhead, hsign⟩
    right
    rw [List.append_assoc, List.head?_append, hhead, Option.some_or, isWordEdge_some,
      isWordChar_of_sign hsign]
    rfl
  extends_right := by
    intro before slice behind m h hseam
    rcases matchToHit_eq_some_parts.1 h with
      ⟨lead, bonus, words, rest, rfl, hlead, hbonus, hwords, hedge, rfl⟩
    apply matchToHit_eq_some_parts.2
    refine ⟨lead, bonus, words, rest ++ behind, ?_, hlead, hbonus, hwords, ?_, rfl⟩
    · simp only [List.append_assoc]
    · exact hseam.edge_append ((endsWord_of_map_foldCase hwords rfl (by decide)).append _) hedge
  apart h hcs hne hlt _ := apart_toHit h hcs hne hlt
  silent_tail := by
    intro before cs m rest h _
    rcases matchToHit_eq_some_parts.1 h with
      ⟨lead, bonus, words, rest', -, -, -, hwords, -, rfl⟩
    exact matchToHit_of_words hwords
  restart := by
    intro before cs m piece rest h _ htail _
    rcases matchToHit_eq_some_parts.1 h with
      ⟨lead, bonus, words, rest', -, -, -, hwords, -, rfl⟩
    have hnil : words = [] := htail
    rw [hnil] at hwords
    cases hwords
  follows := by
    intro before cs m piece rest h hpiece _
    have htoken := onlyToken_matchToHit h piece hpiece
    rcases matchToHit_eq_some_parts.1 h with
      ⟨lead, bonus, words, rest', -, -, -, hwords, -, rfl⟩
    refine ⟨htoken, ?_⟩
    rw [List.head?_append, head_of_words hwords, Option.some_or]
    decide +kernel
  not_text := by
    intro before cs m piece h hpiece body
    rcases onlyToken_matchToHit h piece hpiece with ⟨t, rfl⟩
    simp

end Rollable
end DiceRoller
