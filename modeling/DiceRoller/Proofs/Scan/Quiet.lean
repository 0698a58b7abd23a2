import Mathlib.Algebra.Order.BigOperators.Group.List
import DiceRoller.Proofs.Scan.Leftover
import DiceRoller.Proofs.Scan.Marks

/-!
# Texts in which a scan finds nothing

A text without tokens is one that is silent for the four patterns that find them.  Without tokens and
links a scan leaves its text alone; and as a mark is longer than its token, a text without links that
is left alone has no tokens.

Main results:

- Theorems `refineAll_of_silent` and `silent_of_no_tokens`: no tokens are found in a text when it is
  silent, and only then.
- Theorem `tokens_eq_nil_iff`: a text has no tokens when none of its parts between markup has.
- Theorem `annotate_eq_self_iff`: without links, the texts that annotating leaves alone are those
  without tokens.
-/

namespace DiceRoller

open Text

namespace Piece

/-- Texts that do not stand side by side are at most one. -/
theorem eq_singleton_of_texts {front : Option Piece} {pieces : List Piece}
    (hseparate : EachText Separate front pieces)
    (htexts : ∀ piece ∈ pieces, ∃ body, piece = text body) (hne : sources pieces ≠ []) :
    pieces = [text (sources pieces)] := by
  cases pieces with
  | nil => exact absurd rfl hne
  | cons piece pieces =>
    rcases htexts piece List.mem_cons_self with ⟨body, rfl⟩
    cases pieces with
    | nil => simp [source]
    | cons next pieces =>
      rcases htexts next (List.mem_cons_of_mem _ List.mem_cons_self) with ⟨body', rfl⟩
      exact absurd (hseparate.2.1 body' rfl) (not_separate_text body body')

end Piece

namespace Pattern

/-- Cuts the text among some pieces by several patterns, one after the other. -/
def refineAll (ps : List Pattern) (pieces : List Piece) : List Piece :=
  ps.foldl (fun pieces pattern => pattern.refine pieces) pieces

/-- The first pattern comes first. -/
theorem refineAll_cons (p : Pattern) (ps : List Pattern) (pieces : List Piece) :
    refineAll (p :: ps) pieces = refineAll ps (p.refine pieces) :=
  rfl

/-- Rows of pieces are cut one by one. -/
theorem refineAll_append (ps : List Pattern) (xs ys : List Piece) :
    refineAll ps (xs ++ ys) = refineAll ps xs ++ refineAll ps ys := by
  induction ps generalizing xs ys with
  | nil => rfl
  | cons p ps ih =>
    have hrefine : p.refine (xs ++ ys) = p.refine xs ++ p.refine ys := by
      rw [refine, List.flatMap_append, refine, refine]
    rw [refineAll_cons, hrefine, ih]
    rfl

/-- There is nothing to cut in the empty row. -/
theorem refineAll_nil (ps : List Pattern) : refineAll ps [] = [] := by
  induction ps with
  | nil => rfl
  | cons p ps ih => rw [refineAll_cons, refine_nil, ih]

/-- What is no text is not cut. -/
theorem refineAll_of_not_text (ps : List Pattern) {piece : Piece}
    (h : ∀ body, piece ≠ .text body) : refineAll ps [piece] = [piece] := by
  induction ps with
  | nil => rfl
  | cons p ps ih => rw [refineAll_cons, refine_cons_of_not_text p [] h, refine_nil, ih]

/-- A text in which a pattern finds nothing stays whole. -/
theorem refine_of_silent {p : Pattern} {body : List Char} (hne : body ≠ [])
    (h : p.Silent none body) : p.refine [.text body] = [.text body] := by
  rw [refine_text_cons, refine_nil, List.append_nil, cut_of_silent h]
  cases body with
  | nil => exact absurd rfl hne
  | cons c body => rfl

/-- Pieces are left alone by a pattern for which their texts are silent. -/
theorem refine_eq_self {p : Pattern} {pieces : List Piece}
    (h : ∀ body, .text body ∈ pieces → body ≠ [] ∧ p.Silent none body) :
    p.refine pieces = pieces := by
  induction pieces with
  | nil => rfl
  | cons piece pieces ih =>
    have hrest : p.refine pieces = pieces :=
      ih fun body hmem => h body (List.mem_cons_of_mem piece hmem)
    by_cases htext : ∃ body, piece = .text body
    · rcases htext with ⟨body, rfl⟩
      rcases h body List.mem_cons_self with ⟨hne, hsilent⟩
      have hcut := refine_of_silent hne hsilent
      rw [refine_text_cons, refine_nil, List.append_nil] at hcut
      rw [refine_text_cons, hcut, hrest, List.singleton_append]
    · have hnot : ∀ body, piece ≠ .text body := fun body heq => htext ⟨body, heq⟩
      rw [refine_cons_of_not_text p pieces hnot, hrest]

/-- A text that is silent for some patterns is left alone by them. -/
theorem refineAll_of_silent {ps : List Pattern} {body : List Char} (hne : body ≠ [])
    (h : ∀ p ∈ ps, p.Silent none body) : refineAll ps [.text body] = [.text body] := by
  induction ps with
  | nil => rfl
  | cons p ps ih =>
    rcases List.forall_mem_cons.1 h with ⟨hp, hps⟩
    rw [refineAll_cons, refine_of_silent hne hp, ih hps]

/-- A piece that is no text is still there after further cuts. -/
theorem mem_refineAll_of_mem {ps : List Pattern} {pieces : List Piece} {piece : Piece}
    (hnot : ∀ body, piece ≠ .text body) (h : piece ∈ pieces) : piece ∈ refineAll ps pieces := by
  rcases List.append_of_mem h with ⟨xs, ys, rfl⟩
  have hsplit : xs ++ piece :: ys = xs ++ ([piece] ++ ys) := rfl
  rw [hsplit, refineAll_append, refineAll_append, refineAll_of_not_text ps hnot]
  simp

end Pattern

namespace Rollable

open Pattern

/-- The patterns for rollable parts make no texts. -/
theorem not_text_of_makes {p : Pattern} (hp : p ∈ tokenPatterns) (piece : Piece)
    (h : p.Makes piece) (body : List Char) : piece ≠ .text body := by
  rcases makes_token hp h with ⟨t, rfl⟩
  simp

/-- What a pattern for tokens leaves whole is silent for it. -/
theorem silent_of_cut {p : Pattern} (hp : p ∈ tokenPatterns) {body : List Char}
    (h : p.cut body = [.text body]) : p.Silent none body := by
  simp only [tokenPatterns, List.mem_cons, List.not_mem_nil, or_false] at hp
  rcases hp with rfl | rfl | rfl | rfl
  · exact local_labelled.silent_of_cut h
  · exact local_toHit.silent_of_cut h
  · exact local_dice.silent_of_cut h
  · exact local_save.silent_of_cut h

/-- A text in which no tokens are found is silent for the patterns that look for them. -/
theorem silent_of_no_tokens {ps : List Pattern} (hps : ∀ p ∈ ps, p ∈ tokenPatterns)
    {body : List Char} (hne : body ≠ [])
    (h : (refineAll ps [.text body]).filterMap Piece.token? = []) :
    ∀ p ∈ ps, p.Silent none body := by
  induction ps with
  | nil => simp
  | cons p ps ih =>
    rcases List.forall_mem_cons.1 hps with ⟨hp, hps⟩
    rw [refineAll_cons, refine_text_cons, refine_nil, List.append_nil] at h
    have htexts : ∀ piece ∈ p.cut body, ∃ body', piece = .text body' := by
      intro piece hmem
      rcases mem_cut hmem with htext | hmakes
      · exact htext
      · rcases makes_token hp hmakes with ⟨t, rfl⟩
        have hfound : Piece.token t ∈ refineAll ps (p.cut body) :=
          mem_refineAll_of_mem (by simp) hmem
        have hnone := List.filterMap_eq_nil_iff.1 h _ hfound
        cases hnone
    have hcut : p.cut body = [.text body] := by
      have hseparate : Piece.EachText Piece.Separate none (p.cut body) :=
        eachText_separate_cutAfter (not_text_of_makes hp) (by simp) none body
      have hsingle := Piece.eq_singleton_of_texts hseparate htexts (by rwa [sources_cut])
      rwa [sources_cut] at hsingle
    rw [List.forall_mem_cons]
    refine ⟨silent_of_cut hp hcut, ih hps ?_⟩
    rwa [hcut] at h

end Rollable

/-! ## The tokens between the markup -/

/-- The tokens of a text without markup. -/
def tokensIn (body : List Char) : List Token :=
  (Pattern.refineAll (Link.pattern :: Rollable.tokenPatterns) [.text body]).filterMap Piece.token?

/-- The pieces of a text are its markup and text, cut by the other patterns. -/
theorem pieces_eq_refineAll (cs : List Char) :
    pieces cs =
      Pattern.refineAll (Link.pattern :: Rollable.tokenPatterns) (Markup.pattern.cut cs) :=
  pieces_eq_foldl cs

/-- The tokens among pieces without tokens are those of their texts, in order. -/
theorem filterMap_token?_refineAll {pieces : List Piece}
    (h : ∀ piece ∈ pieces, piece.token? = none) :
    (Pattern.refineAll (Link.pattern :: Rollable.tokenPatterns) pieces).filterMap Piece.token? =
      (pieces.filterMap Piece.text?).flatMap tokensIn := by
  induction pieces with
  | nil => rw [Pattern.refineAll_nil, List.filterMap_nil, List.filterMap_nil, List.flatMap_nil]
  | cons piece pieces ih =>
    rcases List.forall_mem_cons.1 h with ⟨hpiece, hpieces⟩
    have hsplit : piece :: pieces = [piece] ++ pieces := rfl
    rw [hsplit, Pattern.refineAll_append, List.filterMap_append, List.filterMap_append,
      List.flatMap_append, ih hpieces]
    congr 1
    cases piece with
    | text body => simp [Piece.text?, tokensIn]
    | markup body =>
      rw [Pattern.refineAll_of_not_text _ (by simp)]
      rfl
    | link label body =>
      rw [Pattern.refineAll_of_not_text _ (by simp)]
      rfl
    | token t => cases hpiece

/-- A text has the tokens of its parts between markup. -/
theorem tokens_eq_flatMap (cs : List Char) : tokens cs = (Markup.between cs).flatMap tokensIn := by
  rw [tokens, pieces_eq_refineAll, Markup.between]
  apply filterMap_token?_refineAll
  intro piece hmem
  rcases Pattern.mem_cut hmem with ⟨body, rfl⟩ | hmakes
  · rfl
  · rcases makes_markup hmakes with ⟨body, rfl⟩
    rfl

/-- A text has no tokens when what stands between its markup has none. -/
theorem tokens_eq_nil_iff (cs : List Char) :
    tokens cs = [] ↔ ∀ body ∈ Markup.between cs, tokensIn body = [] := by
  rw [tokens_eq_flatMap, List.flatMap_eq_nil_iff]

/-- What is between markup is not empty. -/
theorem Markup.ne_nil_of_mem_between {cs body : List Char} (h : body ∈ Markup.between cs) :
    body ≠ [] := by
  rcases List.mem_filterMap.1 h with ⟨piece, hmem, hpiece⟩
  cases piece with
  | text body' =>
    cases hpiece
    rcases (eachText_separate_cut cs).exists_of_mem hmem with ⟨front, hne, -⟩
    exact hne
  | markup body' => cases hpiece
  | link label body' => cases hpiece
  | token t => cases hpiece

/-- A text without markup and links has no tokens when every pattern for them is silent. -/
theorem tokensIn_eq_nil_iff {body : List Char} (hne : body ≠ [])
    (hlinks : Link.pattern.Silent none body) :
    tokensIn body = [] ↔ ∀ p ∈ Rollable.tokenPatterns, p.Silent none body := by
  rw [tokensIn, Pattern.refineAll_cons, Pattern.refine_of_silent hne hlinks]
  constructor
  · intro h
    exact Rollable.silent_of_no_tokens (fun p hp => hp) hne h
  · intro h
    rw [Pattern.refineAll_of_silent hne h]
    rfl

/-! ## Texts that stay as they are -/

namespace Piece

/-- A mark is longer than its token. -/
theorem length_source_lt_of_token (t : Token) :
    (token t).source.length < (token t).annotated.length := by
  have hsuffix : ('>' :: t.matched) ++ markEnd <:+ t.mark := by
    unfold Token.mark renderMark
    rw [List.append_assoc]
    exact List.suffix_append _ _
  calc t.matched.length < ('>' :: t.matched).length := Nat.lt_succ_self _
    _ ≤ (('>' :: t.matched) ++ markEnd).length := (List.prefix_append _ _).length_le
    _ ≤ t.mark.length := hsuffix.length_le

/-- Without links a text is longer when it is annotated, if there are tokens in it. -/
theorem length_sources_lt {pieces : List Piece}
    (hlinks : ∀ piece ∈ pieces, ∀ label body, piece ≠ link label body) {t : Token}
    (h : token t ∈ pieces) : (sources pieces).length < (pieces.flatMap annotated).length := by
  have hle : ∀ piece ∈ pieces, piece.source.length ≤ piece.annotated.length := by
    intro piece hmem
    cases piece with
    | text body => exact Nat.le_refl _
    | markup body => exact Nat.le_refl _
    | link label body => exact absurd rfl (hlinks _ hmem label body)
    | token t => exact Nat.le_of_lt (length_source_lt_of_token t)
  rw [sources, List.length_flatMap, List.length_flatMap]
  exact List.sum_lt_sum _ _ hle ⟨token t, h, length_source_lt_of_token t⟩

end Piece

/-- Where no links are found, there are none among the pieces. -/
theorem not_link_of_mem_pieces {cs : List Char}
    (hlinks : ∀ body ∈ Markup.between cs, Link.pattern.Silent none body) {piece : Piece}
    (h : piece ∈ pieces cs) (label body : List Char) : piece ≠ .link label body := by
  have hrefine : Link.pattern.refine (Markup.pattern.cut cs) = Markup.pattern.cut cs := by
    apply Pattern.refine_eq_self
    intro body hmem
    have hbetween : body ∈ Markup.between cs := List.mem_filterMap.2 ⟨_, hmem, rfl⟩
    exact ⟨Markup.ne_nil_of_mem_between hbetween, hlinks body hbetween⟩
  rw [pieces_eq_foldl, hrefine] at h
  rcases Pattern.mem_foldl_refine h with ⟨body', rfl⟩ | ⟨p, hp, hmakes⟩ | hmem
  · simp
  · rcases Rollable.makes_token hp hmakes with ⟨t, rfl⟩
    simp
  · rcases Pattern.mem_cut hmem with ⟨body', rfl⟩ | hmakes
    · simp
    · rcases makes_markup hmakes with ⟨m, rfl⟩
      simp

/-- Without links, the texts that annotating leaves alone are those without tokens. -/
theorem annotate_eq_self_iff {cs : List Char}
    (hlinks : ∀ body ∈ Markup.between cs, Link.pattern.Silent none body) :
    annotate cs = cs ↔ tokens cs = [] := by
  have hnot : ∀ piece ∈ pieces cs, ∀ label body, piece ≠ .link label body :=
    fun piece hmem => not_link_of_mem_pieces hlinks hmem
  constructor
  · intro h
    apply List.filterMap_eq_nil_iff.2
    intro piece hmem
    cases piece with
    | text body => rfl
    | markup body => rfl
    | link label body => exact absurd rfl (hnot _ hmem label body)
    | token t =>
      have hlonger := Piece.length_sources_lt hnot hmem
      rw [sources_pieces] at hlonger
      rw [annotate] at h
      rw [h] at hlonger
      exact absurd hlonger (Nat.lt_irrefl _)
  · intro h
    apply annotate_of_plain
    intro piece hmem
    cases piece with
    | text body => rfl
    | markup body => rfl
    | link label body => exact absurd rfl (hnot _ hmem label body)
    | token t =>
      have hnone := List.filterMap_eq_nil_iff.1 h _ hmem
      cases hnone

/-! ## What a tag cuts off -/

namespace Rollable

/-- No word runs into a tag. -/
theorem wordSeam_of_tag {slice behind : List Char} (h : StopsAtTag behind) :
    WordSeam slice behind := by
  right
  rcases h with rfl | htag
  · rfl
  · rw [htag]
    decide +kernel

/-- A bonus to hit holds no opener of a tag. -/
theorem not_mem_bonus_tag {bonus words : List Char} (hbonus : IsBonus bonus)
    (hwords : words.map foldCase = " to hit".toList) : '<' ∉ bonus ++ words := by
  intro hmem
  rcases List.mem_append.1 hmem with hmem | hmem
  · exact hbonus.isPlain.not_mem.1 hmem
  · exact not_mem_of_foldCase hwords (by decide) hmem

/-- What holds no `<` ends in front of a tag. -/
theorem exists_append_of_tag {slice behind front rest : List Char} (h : StopsAtTag behind)
    (heq : slice ++ behind = front ++ rest) (hfront : '<' ∉ front) :
    ∃ zs, slice = front ++ zs ∧ rest = zs ++ behind := by
  rcases List.append_eq_append_iff.1 heq with ⟨zs, hzs, hbehind⟩ | ⟨zs, hslice, hrest⟩
  · cases zs with
    | nil =>
      rw [List.append_nil] at hzs
      exact ⟨[], by rw [hzs, List.append_nil], hbehind.symm⟩
    | cons z zs =>
      exfalso
      rcases h with rfl | htag
      · cases hbehind
      · rw [hbehind] at htag
        have hz : z = '<' := Option.some.inj htag
        apply hfront
        rw [hzs, hz]
        exact List.mem_append_right slice List.mem_cons_self
  · exact ⟨zs, hslice, hrest⟩

/-- What begins at the edge of a word does so without the text behind it. -/
theorem isWordEdge_of_append {zs behind : List Char}
    (h : isWordEdge (zs ++ behind).head? = true) : isWordEdge zs.head? = true :=
  isWordEdge_of_prefix (List.prefix_append zs behind) h

/-- No roll of dice runs into a tag. -/
theorem diceSeam_of_tag {slice behind : List Char} (h : StopsAtTag behind) :
    DiceSeam slice behind where
  word := wordSeam_of_tag h
  modifier := by
    intro front back _ hnone
    by_contra hsome
    rcases Option.ne_none_iff_exists'.1 hsome with ⟨⟨modifier, rest⟩, htaken⟩
    rcases takeModifier_eq_some_iff.1 htaken with ⟨heq, hmodifier, hedge⟩
    rcases exists_append_of_tag h heq hmodifier.isPlain.not_mem.1 with ⟨zs, hback, hrest⟩
    rw [hrest] at hedge
    have htaken' : takeModifier back = some (modifier, zs) :=
      takeModifier_eq_some_iff.2 ⟨hback, hmodifier, isWordEdge_of_append hedge⟩
    rw [hnone] at htaken'
    cases htaken'

/-- A tag behind a slice makes no difference to the bonus at its start. -/
theorem startsWithBonus_append_iff {slice behind : List Char} (h : StopsAtTag behind) :
    StartsWithBonus (slice ++ behind) ↔ StartsWithBonus slice := by
  constructor
  · intro hbonus
    rcases hbonus with ⟨m, hm, hpiece⟩
    rcases matchBonusToHit_eq_some_iff.1 hm with
      ⟨bonus, words, rest, heq, hbonus, hwords, hedge, rfl⟩
    rcases exists_append_of_tag h heq (not_mem_bonus_tag hbonus hwords) with ⟨zs, hslice, hrest⟩
    rw [hrest] at hedge
    refine ⟨⟨[], bonus, words, zs, attackPiece bonus⟩, ?_, hpiece⟩
    apply matchBonusToHit_eq_some_iff.2
    exact ⟨bonus, words, zs, hslice, hbonus, hwords, isWordEdge_of_append hedge, rfl⟩
  · intro hbonus
    exact hbonus.append (wordSeam_of_tag h)

/-- The empty text begins with no bonus. -/
theorem not_startsWithBonus_nil : ¬ StartsWithBonus [] := by
  intro h
  rcases h with ⟨m, hm, -⟩
  cases hm

end Rollable

/-- The beginning of a text that is silent for a local pattern. -/
theorem Pattern.Silent.of_append {p : Pattern} {Joins : List Char → List Char → Prop}
    {Follows : Piece → List Char → Prop} (hp : p.Local Joins Follows) {before : Option Char}
    {slice behind : List Char} (h : p.Silent before (slice ++ behind)) (hjoins : Joins slice behind) :
    p.Silent before slice := by
  intro x y m heq hm
  rw [heq] at hjoins
  apply h x (y ++ behind) (m.appendRest behind) (by rw [heq, List.append_assoc])
  exact hp.extends_right hm (hp.joins_drop hjoins)

/-- The empty text has no tokens. -/
@[simp]
theorem tokensIn_nil : tokensIn [] = [] := by
  have hrefine : ∀ p : Pattern, p.refine [.text []] = [] := by
    intro p
    rw [Pattern.refine_text_cons, Pattern.cut_nil, Pattern.refine_nil, List.append_nil]
  rw [tokensIn, Pattern.refineAll_cons, hrefine, Pattern.refineAll_nil, List.filterMap_nil]

/-- Of a text that a scan has left, the part up to a tag has a token only where a bonus is at its
start. -/
theorem Leftover.tokensIn_eq_nil_iff {front : Option Piece} {slice behind : List Char}
    (h : Leftover front (slice ++ behind)) (htag : StopsAtTag behind) :
    tokensIn slice = [] ↔ ¬ Rollable.StartsWithBonus (slice ++ behind) := by
  rw [Rollable.startsWithBonus_append_iff htag]
  by_cases hne : slice = []
  · rw [hne, tokensIn_nil]
    exact iff_of_true rfl Rollable.not_startsWithBonus_nil
  · have hlinks := h.links.of_append local_link trivial
    have hlabelled := h.labelled.of_append Rollable.local_labelled (Rollable.wordSeam_of_tag htag)
    have htoHit := fun c =>
      (h.toHit c).of_append Rollable.local_toHit (Rollable.wordSeam_of_tag htag)
    have hdice := h.dice.of_append Rollable.local_dice (Rollable.diceSeam_of_tag htag)
    have hsave := h.save.of_append Rollable.local_save (Rollable.diceSeam_of_tag htag)
    rw [DiceRoller.tokensIn_eq_nil_iff hne hlinks]
    constructor
    · intro hsilent
      exact (Rollable.silent_toHit_iff.1 (hsilent _ (by simp [Rollable.tokenPatterns]))).2
    · intro hbonus
      simp only [Rollable.tokenPatterns, List.forall_mem_cons, List.not_mem_nil, false_imp_iff,
        implies_true, and_true]
      exact ⟨hlabelled, Rollable.silent_toHit_iff.2 ⟨htoHit, hbonus⟩, hdice, hsave⟩

end DiceRoller
