import DiceRoller.Proofs.Scan.Pieces

/-!
# The pattern for links is local

Whether a link begins at a place depends on its own characters only, so there is nothing to the laws of
a local pattern but the form of a link.

Main results:

- Theorem `take_eq_some_iff`: a link at the start of a text, as its parts.
- Theorem `local_link`: the laws.
-/

namespace DiceRoller

open Text

namespace Link

/-- A link at the start of a text, as its parts. -/
theorem take_eq_some_iff {cs label target rest : List Char} :
    take cs = some (label, target, rest) ↔
      cs = written label target ++ rest ∧ label ≠ [] ∧ (∀ c ∈ label, isLabelChar c = true) ∧
        ∀ c ∈ target, isTargetChar c = true := by
  constructor
  · intro h
    have hcs := (take_append h).symm
    unfold take at h
    split at h
    · rename_i inner
      split at h
      · rename_i c label' more hlabel hafter
        split at h
        · rename_i rest' hrest
          simp only [Option.some.injEq, Prod.mk.injEq] at h
          rcases h with ⟨rfl, rfl, rfl⟩
          refine ⟨hcs, List.cons_ne_nil c label', ?_, ?_⟩
          · intro d hd
            rw [← hlabel] at hd
            exact List.mem_takeWhile_imp hd
          · intro d hd
            exact List.mem_takeWhile_imp hd
        · cases h
      · cases h
    · cases h
  · intro h
    rcases h with ⟨rfl, hne, hlabel, htarget⟩
    have hinner : written label target ++ rest =
        '[' :: (label ++ (']' :: '(' :: (target ++ (')' :: rest)))) := by
      simp [written]
    have hlabelStop : ∀ d, (']' :: '(' :: (target ++ (')' :: rest))).head? = some d →
        isLabelChar d = false := by
      intro d hd
      cases hd
      decide
    have htargetStop : ∀ d, (')' :: rest).head? = some d → isTargetChar d = false := by
      intro d hd
      cases hd
      decide
    have hfirst := takeWhile_dropWhile_append hlabel hlabelStop
    have hsecond := takeWhile_dropWhile_append htarget htargetStop
    rw [hinner, take, hfirst.1, hfirst.2]
    cases label with
    | nil => exact absurd rfl hne
    | cons c label =>
      simp only [hsecond.1, hsecond.2]

theorem match_eq_some_iff {before : Option Char} {cs : List Char} {m : Match} :
    pattern.match? before cs = some m ↔ ∃ label target rest,
      take cs = some (label, target, rest) ∧
        m = ⟨[], written label target, [], rest, some (.link label (written label target))⟩ := by
  constructor
  · intro h
    rcases Option.map_eq_some_iff.1 h with ⟨⟨label, target, rest⟩, htaken, rfl⟩
    exact ⟨label, target, rest, htaken, rfl⟩
  · intro h
    rcases h with ⟨label, target, rest, htaken, rfl⟩
    exact Option.map_eq_some_iff.2 ⟨(label, target, rest), htaken, rfl⟩

/-- There is no link in a text without an opening bracket. -/
theorem silent_of_not_mem {cs : List Char} (h : '[' ∉ cs) : pattern.Silent none cs := by
  intro front back m heq hm
  rcases match_eq_some_iff.1 hm with ⟨label, target, rest, htaken, rfl⟩
  rcases take_eq_some_iff.1 htaken with ⟨hback, -⟩
  exfalso
  apply h
  rw [heq, hback]
  simp [written]

end Link

/-- The pattern for links is local: whether there is a link somewhere depends on its characters
only. -/
theorem local_link :
    Link.pattern.Local (fun _ _ => True) fun piece _ => ∃ label body, piece = .link label body where
  joins_nil _ := trivial
  joins_drop _ := trivial
  joins_lead _ _ _ := trivial
  extends_right := by
    intro before slice behind m h _
    rcases Link.match_eq_some_iff.1 h with ⟨label, target, rest, htaken, rfl⟩
    rcases Link.take_eq_some_iff.1 htaken with ⟨rfl, hparts⟩
    apply Link.match_eq_some_iff.2
    refine ⟨label, target, rest ++ behind, ?_, rfl⟩
    exact Link.take_eq_some_iff.2 ⟨by rw [List.append_assoc], hparts⟩
  apart := by
    intro before cs m front back h _ hne hlt hleaves
    rcases Link.match_eq_some_iff.1 h with ⟨label, target, rest, -, rfl⟩
    -- All of a link belongs to its piece.
    simp only [Match.LeavesAt, Match.whole, List.nil_append, List.append_nil, List.length_nil,
      reduceCtorEq, Nat.not_lt_zero, false_or] at hleaves hlt
    omega
  silent_tail := by
    intro before cs m rest h htail
    rcases Link.match_eq_some_iff.1 h with ⟨label, target, rest', -, rfl⟩
    exact absurd rfl htail
  restart _ _ _ _ := rfl
  follows := by
    intro before cs m piece rest h hpiece _
    rcases Link.match_eq_some_iff.1 h with ⟨label, target, rest', -, rfl⟩
    exact ⟨_, _, (Option.some.inj hpiece).symm⟩
  not_text := by
    intro before cs m piece h hpiece body
    rcases Link.match_eq_some_iff.1 h with ⟨label, target, rest', -, rfl⟩
    rw [← Option.some.inj hpiece]
    simp

end DiceRoller
