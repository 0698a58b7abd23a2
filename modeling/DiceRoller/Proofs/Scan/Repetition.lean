import DiceRoller.Proofs.Scan.Rereading

/-!
# Annotating an annotated text

Annotating a text twice is the same as annotating it once when nothing is found in the annotated text.
Links are never found there.  Tokens are found in two cases: a bonus that stood behind dice is at the
start of a text once the dice have become a mark, and the content of a mark is read as text behind an
open closing tag.

Main results:

- Theorem `annotate_annotate_eq_iff`: when annotating an annotated text leaves it as it is.
-/

namespace DiceRoller

open Text

/-! ## Links in what is read -/

theorem Markup.mem_of_mem_splitAtTag {cs : List Char} {c : Char} (h : c ∈ (splitAtTag cs).1) :
    c ∈ cs := by
  rw [← splitAtTag_append cs]
  exact List.mem_append_left _ h

theorem Markup.splitAtTag_of_not_mem {cs : List Char} (h : '<' ∉ cs) : (splitAtTag cs).2 = [] := by
  rcases splitAtTag_snd cs with hnil | ⟨tag, htag, -⟩
  · exact hnil
  · exfalso
    apply h
    rw [← splitAtTag_append cs, htag]
    exact List.mem_append_right _ List.mem_cons_self

namespace Reading

variable {reading : Reading} {piece : Piece} {pieces : List Piece} {slice : List Char}

theorem exists_content_of_mem_laidOpen (h : slice ∈ reading.laidOpen piece) :
    ∃ content, piece.content? = some content ∧ slice = (Markup.splitAtTag content).1 := by
  cases reading with
  | outside => cases h
  | hidden => cases h
  | closing =>
    cases hcontent : piece.content? with
    | none =>
      rw [laidOpen, hcontent] at h
      cases h
    | some content =>
      rw [laidOpen, hcontent] at h
      exact ⟨content, rfl, List.mem_singleton.1 h⟩

theorem exists_content_of_mem_allLaidOpen (h : slice ∈ reading.allLaidOpen pieces) :
    ∃ content, slice = (Markup.splitAtTag content).1 := by
  induction pieces generalizing reading with
  | nil => cases h
  | cons piece pieces ih =>
    rcases List.mem_append.1 h with hmem | hmem
    · rcases exists_content_of_mem_laidOpen hmem with ⟨content, -, hslice⟩
      exact ⟨content, hslice⟩
    · exact ih hmem

/-- What is laid open holds no markup of its own. -/
theorem tokens_of_mem_allLaidOpen (h : slice ∈ reading.allLaidOpen pieces) :
    tokens slice = tokensIn slice := by
  rcases exists_content_of_mem_allLaidOpen h with ⟨content, rfl⟩
  have hbare : Markup.Bare (Markup.splitAtTag content).1 [] := Markup.bare_splitAtTag rfl content
  have hbetween := Markup.between_append hbare (Or.inl rfl)
  rw [List.append_nil, Markup.between_nil, List.append_nil] at hbetween
  rw [tokens_eq_flatMap, hbetween]
  by_cases hnil : (Markup.splitAtTag content).1 = []
  · simp [hnil]
  · simp [hnil]

/-- A token leaves a scan outside of markup. -/
theorem next_token {t : Token} (h : t.IsPlain) : reading.next (.token t) = outside := by
  cases reading with
  | outside => rfl
  | hidden => rfl
  | closing =>
    show behindContent (Markup.splitAtTag t.matched).2 = outside
    rw [Markup.splitAtTag_of_not_mem h.matched.not_mem.1]
    decide

/-- Outside of markup a text is read up to a tag. -/
theorem exists_shown_text (last : Bool) (body : List Char) :
    ∃ slice behind, outside.shown last (.text body) = [slice] ∧ body = slice ++ behind ∧
      StopsAtTag behind := by
  cases last with
  | true => exact ⟨body, [], rfl, (List.append_nil body).symm, Or.inl rfl⟩
  | false =>
    exact ⟨_, _, rfl, (Markup.splitAtTag_append body).symm, Markup.stopsAtTag_splitAtTag body⟩

/-- Everything else that is read as text is the content of a mark. -/
theorem shown_eq_laidOpen (last : Bool)
    (h : ¬ (reading = outside ∧ ∃ body, piece = .text body)) :
    reading.shown last piece = reading.laidOpen piece := by
  cases reading with
  | outside =>
    cases piece with
    | text body => exact absurd ⟨rfl, body, rfl⟩ h
    | markup body => rfl
    | link label body => rfl
    | token t => rfl
  | hidden => rfl
  | closing => rfl

end Reading

namespace Scanned

variable {front : Option Piece} {piece : Piece} {pieces : List Piece} {reading : Reading}

/-- No links are read in the annotated text. -/
theorem silent_link_of_mem_allShown (h : Scanned front pieces) {slice : List Char}
    (hmem : slice ∈ reading.allShown pieces) : Link.pattern.Silent none slice := by
  induction pieces generalizing front reading with
  | nil => cases hmem
  | cons piece pieces ih =>
    rcases List.mem_append.1 hmem with hshown | hothers
    · by_cases htext : reading = .outside ∧ ∃ body, piece = .text body
      · rcases htext with ⟨rfl, body, rfl⟩
        rcases Reading.exists_shown_text pieces.isEmpty body with ⟨slice', behind, heq, rfl, -⟩
        rw [heq, List.mem_singleton] at hshown
        rw [hshown]
        exact (h.texts.1 _ rfl).links.of_append local_link trivial
      · rw [Reading.shown_eq_laidOpen _ htext] at hshown
        rcases Reading.exists_content_of_mem_laidOpen hshown with ⟨content, hcontent, rfl⟩
        apply Link.silent_of_not_mem
        intro hbracket
        exact (h.marked piece List.mem_cons_self content hcontent).no_link
          (Markup.mem_of_mem_splitAtTag hbracket)
    · exact ih h.tail hothers

/-! ## Tokens in what is read -/

/-- Tokens are read in a piece if a bonus at its start is read as text, or in the content of its mark
if that is laid open. -/
theorem tokensIn_shown (h : Scanned front (piece :: pieces)) (last : Bool)
    (hfront : reading ≠ .outside → ∀ t, front ≠ some (.token t)) :
    (∀ slice ∈ reading.shown last piece, tokensIn slice = []) ↔
      (∀ body, piece = .text body → ¬ Rollable.StartsWithBonus body) ∧
        ∀ slice ∈ reading.laidOpen piece, tokensIn slice = [] := by
  by_cases htext : reading = .outside ∧ ∃ body, piece = .text body
  · rcases htext with ⟨rfl, body, rfl⟩
    rcases Reading.exists_shown_text last body with ⟨slice, behind, heq, rfl, hstops⟩
    have hlaidOpen : Reading.outside.laidOpen (.text (slice ++ behind)) = [] := rfl
    have htokens := (h.texts.1 _ rfl).tokensIn_eq_nil_iff hstops
    rw [heq, hlaidOpen]
    simp [htokens]
  · have hbonus : ∀ body, piece = .text body → ¬ Rollable.StartsWithBonus body := by
      intro body hbody hbonus
      have hreading : reading ≠ .outside := fun houtside => htext ⟨houtside, body, hbody⟩
      rcases (h.texts.1 body hbody).bonus hbonus with ⟨t, hfrontToken⟩
      exact hfront hreading t hfrontToken
    rw [Reading.shown_eq_laidOpen last htext]
    exact (and_iff_right hbonus).symm

/-- The same for all pieces. -/
theorem tokensIn_allShown (h : Scanned front pieces)
    (hfront : reading ≠ .outside → ∀ t, front ≠ some (.token t)) :
    (∀ slice ∈ reading.allShown pieces, tokensIn slice = []) ↔
      (∀ body, .text body ∈ pieces → ¬ Rollable.StartsWithBonus body) ∧
        ∀ slice ∈ reading.allLaidOpen pieces, tokensIn slice = [] := by
  induction pieces generalizing front reading with
  | nil => simp [Reading.allShown, Reading.allLaidOpen]
  | cons piece pieces ih =>
    -- Behind a token the scan is outside, so the texts that are hidden have no bonus at their start.
    have hnext : reading.next piece ≠ .outside → ∀ t, some piece ≠ some (.token t) := by
      intro hreading t heq
      apply hreading
      have hpiece : piece = .token t := Option.some.inj heq
      rw [hpiece] at h ⊢
      exact Reading.next_token (h.tokens t List.mem_cons_self)
    have hothers := ih h.tail hnext
    have hpiece := h.tokensIn_shown pieces.isEmpty hfront
    have hmem : (∀ body, .text body ∈ piece :: pieces → ¬ Rollable.StartsWithBonus body) ↔
        (∀ body, piece = .text body → ¬ Rollable.StartsWithBonus body) ∧
          ∀ body, .text body ∈ pieces → ¬ Rollable.StartsWithBonus body := by
      simp only [List.mem_cons, or_imp, forall_and, eq_comm]
    rw [Reading.allShown, Reading.allLaidOpen, List.forall_mem_append, List.forall_mem_append,
      hothers, hpiece, hmem]
    exact and_and_and_comm

end Scanned

/-! ## Annotating twice -/

/-- No links are read in an annotated text. -/
theorem silent_link_of_mem_between {cs body : List Char}
    (h : body ∈ Markup.between (annotate cs)) : Link.pattern.Silent none body := by
  rw [between_annotate, List.mem_filter] at h
  exact (scanned_pieces cs).silent_link_of_mem_allShown h.1

theorem tokens_annotate_eq_nil_iff (cs : List Char) :
    tokens (annotate cs) = [] ↔
      ∀ slice ∈ Reading.allShown .outside (pieces cs), tokensIn slice = [] := by
  rw [tokens_eq_nil_iff, between_annotate]
  constructor
  · intro h slice hmem
    by_cases hnil : slice = []
    · rw [hnil, tokensIn_nil]
    · exact h slice (List.mem_filter.2 ⟨hmem, by simpa using hnil⟩)
  · intro h slice hmem
    exact h slice (List.mem_filter.1 hmem).1

/-- Annotating an annotated text leaves it as it is, unless a text that the scan has left begins with
a bonus in front of ` to hit`, or there are tokens in the contents of marks that are laid open. -/
theorem annotate_annotate_eq_iff (cs : List Char) :
    annotate (annotate cs) = annotate cs ↔
      (∀ body, .text body ∈ pieces cs → ¬ Rollable.StartsWithBonus body) ∧
        ∀ slice ∈ Reading.allLaidOpen .outside (pieces cs), tokens slice = [] := by
  have hlaidOpen : (∀ slice ∈ Reading.allLaidOpen .outside (pieces cs), tokens slice = []) ↔
      ∀ slice ∈ Reading.allLaidOpen .outside (pieces cs), tokensIn slice = [] := by
    constructor
    · intro h slice hmem
      rw [← Reading.tokens_of_mem_allLaidOpen hmem]
      exact h slice hmem
    · intro h slice hmem
      rw [Reading.tokens_of_mem_allLaidOpen hmem]
      exact h slice hmem
  rw [annotate_eq_self_iff fun body hmem => silent_link_of_mem_between hmem,
    tokens_annotate_eq_nil_iff, hlaidOpen]
  exact (scanned_pieces cs).tokensIn_allShown (by simp)

/-- The dice in front of a bonus become a mark, and then the bonus is at the start of a text. -/
theorem annotate_annotate_ne :
    annotate (annotate "1d6+5+5 to hit".toList) ≠ annotate "1d6+5+5 to hit".toList := by
  decide +kernel

/-- The tag of the first mark closes the closing tag in front of it, so its dice are marked again. -/
example : annotate (annotate "</b 1d6".toList) ≠ annotate "</b 1d6".toList := by
  decide +kernel

end DiceRoller
