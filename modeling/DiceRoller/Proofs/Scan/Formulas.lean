import DiceRoller.Proofs.Notation.Printing
import DiceRoller.Proofs.Scan.Pieces

/-!
# The notations of tokens

Whatever a token was made of, the notation that it stands for is the written form of a phrase that can
be rolled.  So every token has a query.

Main results:

- Theorem `exists_phrase_of_makes`: the phrase of a token.
- Theorem `Token.HasPhrase.exists_query`: the query of a token, for its very notation.
-/

namespace DiceRoller

namespace Phrase

/-- A twenty-sided die, perhaps with a modifier. -/
def d20 (modifier : Option SignedDigits) : Phrase :=
  dice ['1'] ['2', '0'] none modifier

variable {modifier : Option SignedDigits}

/-- How one die of twenty sides is written. -/
theorem render_d20 : (d20 modifier).render = "1d20".toList ++ renderSigned modifier :=
  rfl

/-- Its numbers are digits. -/
theorem wellFormed_d20 (h : ∀ part, modifier = some part → IsDigits part.digits) :
    (d20 modifier).WellFormed := by
  refine ⟨by simp, ⟨by simp, by simp⟩, ?_, h⟩
  intro rule hrule
  cases hrule

/-- It is in range when its modifier is. -/
theorem inRange_d20_iff : (d20 modifier).InRange ↔ FitsModifier (modifierValue modifier) := by
  have hcount : countValue ['1'] ≤ 5000 := by decide
  have hsides : 0 < Decimal.value ['2', '0'] ∧ Decimal.value ['2', '0'] ≤ 5000 := by decide
  simp [d20, InRange, hcount, hsides]

end Phrase

namespace Token

/-- The phrase of a token, whose written form is the notation that the token stands for. -/
structure HasPhrase (t : Token) (phrase : Phrase) : Prop where
  wellFormed : phrase.WellFormed
  inRange : phrase.InRange
  formula : t.formula = phrase.render

/-- The formula of a token has characters of dice notation only. -/
theorem HasPhrase.mem_notationChars {t : Token} {phrase : Phrase} (h : t.HasPhrase phrase) :
    ∀ c ∈ t.formula, c ∈ notationChars := by
  rw [h.formula]
  exact h.wellFormed.mem_notationChars

/-- A token with a phrase has a query for its notation as it stands. -/
theorem HasPhrase.exists_query {t : Token} {phrase : Phrase} (h : t.HasPhrase phrase) :
    ∃ d, Descriptor.parse t.formula = .ok d ∧ phrase.Denotes t.formula d ∧
      t.query = .ok ⟨t.formula, d⟩ := by
  rcases Phrase.exists_denotes phrase.render h.inRange with ⟨d, hd⟩
  have hparse : Descriptor.parse t.formula = .ok d := by
    rw [h.formula]
    exact (Descriptor.parse_render_eq_ok_iff h.wellFormed).2 ⟨h.inRange, hd⟩
  refine ⟨d, hparse, by rwa [h.formula], ?_⟩
  rw [query, Query.parse, hparse]
  rfl

/-- The descriptor of a token with a phrase has the values of that phrase. -/
theorem HasPhrase.denotes {t : Token} {phrase : Phrase} {d : Descriptor} (h : t.HasPhrase phrase)
    (hd : Descriptor.parse t.formula = .ok d) : phrase.Denotes t.formula d := by
  rw [h.formula] at hd ⊢
  exact ((Descriptor.parse_render_eq_ok_iff h.wellFormed).1 hd).2

end Token

namespace Rollable

/-- A bonus means a twenty-sided die with the number that was read as its modifier. -/
theorem hasPhrase_attack (bonus : List Char) (n : Int64) :
    (⟨bonus, .attack n⟩ : Token).HasPhrase (.d20 (some (Phrase.ofInt n.toInt))) := by
  refine ⟨?_, ?_, ?_⟩
  · apply Phrase.wellFormed_d20
    intro part hpart
    cases hpart
    exact Phrase.isDigits_digits _
  · rw [Phrase.inRange_d20_iff, Phrase.modifierValue_ofInt]
    exact Phrase.fitsModifier_toInt n
  · rw [Phrase.render_d20, Phrase.renderSigned_ofInt]
    rfl

/-- An attack stands for one die of twenty sides and its bonus. -/
theorem hasPhrase_of_attackPiece {bonus : List Char} {t : Token}
    (h : attackPiece bonus = some (.token t)) :
    ∃ n : Int64, t.HasPhrase (.d20 (some (Phrase.ofInt n.toInt))) := by
  rcases Option.map_eq_some_iff.1 h with ⟨n, -, heq⟩
  cases heq
  exact ⟨n, hasPhrase_attack bonus n⟩

/-- Dice mean the phrase that they are written as, once they are canonical. -/
theorem hasPhrase_of_dicePiece {dice : List Char} {t : Token}
    (h : dicePiece dice = some (.token t)) : ∃ phrase, t.HasPhrase phrase := by
  rcases Option.map_eq_some_iff.1 h with ⟨d, hd, heq⟩
  cases heq
  rcases Descriptor.exists_phrase_of_parse (toOption_eq_some_iff.1 hd) with
    ⟨phrase, hwell, hrender, hrange, -⟩
  exact ⟨phrase, hwell, hrange, hrender.symm⟩

/-- A saving throw stands for one die of twenty sides. -/
theorem hasPhrase_of_savePiece {dc ability : List Char} {t : Token}
    (h : savePiece dc ability = some (.token t)) : t.HasPhrase (.d20 none) := by
  rcases Option.map_eq_some_iff.1 h with ⟨n, -, heq⟩
  cases heq
  refine ⟨?_, ?_, rfl⟩
  · apply Phrase.wellFormed_d20
    intro part hpart
    cases hpart
  · rw [Phrase.inRange_d20_iff]
    exact Phrase.fitsModifier_toInt 0

/-- Every token has a phrase. -/
theorem exists_phrase_of_makes {p : Pattern} {t : Token} (hp : p ∈ tokenPatterns)
    (h : p.Makes (.token t)) : ∃ phrase, t.HasPhrase phrase := by
  rcases origin_of_makes hp h with ⟨bonus, -, hpiece⟩ |
    ⟨count, letter, sides, modifier, rest, -, -, -, -, hpiece⟩ | ⟨dc, ability, -, -, hpiece⟩
  · rcases hasPhrase_of_attackPiece hpiece with ⟨n, hphrase⟩
    exact ⟨_, hphrase⟩
  · exact hasPhrase_of_dicePiece hpiece
  · exact ⟨_, hasPhrase_of_savePiece hpiece⟩

end Rollable

/-- Every token of a scan stands for a phrase. -/
theorem exists_phrase_of_mem_pieces {cs : List Char} {t : Token} (h : .token t ∈ pieces cs) :
    ∃ phrase, t.HasPhrase phrase := by
  rcases makes_of_mem_token h with ⟨p, hp, hmakes⟩
  exact Rollable.exists_phrase_of_makes hp hmakes

end DiceRoller
