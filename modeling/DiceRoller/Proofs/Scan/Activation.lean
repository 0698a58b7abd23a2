import DiceRoller.Proofs.Notation.Respelling
import DiceRoller.Proofs.Scan.Formulas
import DiceRoller.Proofs.Scan.Locality.Save
import DiceRoller.Proofs.Scan.Spans

/-!
# What tokens mean

Every token that a scan finds can be rolled, and what is rolled is what was matched.  The patterns
take the digits of every script and blanks around signs, the notation of a token is put together from
numbers that were read, and only ASCII digits are read; so a token that is there has a matched text
whose meaning can be told from its characters.

Main results:

- Theorem `denotes_d20_iff`: the descriptors of a twenty-sided die.
- Theorem `sides_and_keep_of_dice`: dice that are written out in a text have sides and no keep rule.
- Theorems `means_of_attackPiece`, `means_of_dicePiece` and `means_of_savePiece`: the meaning of each
  kind of token.
- Theorem `query_of_mem_scan`: every token of a text has a query, which means what was matched.
-/

namespace DiceRoller

open Text

namespace Phrase

/-- The descriptors of a twenty-sided die with a modifier. -/
theorem denotes_d20_iff {modifier : Option SignedDigits} {canonical : List Char} {d : Descriptor} :
    (d20 modifier).Denotes canonical d ↔
      d.count = 1 ∧ d.sides = 20 ∧ d.keep = none ∧ d.modifier.toInt = modifierValue modifier ∧
        d.canonical = canonical := by
  have hcount : countValue ['1'] = (1 : UInt64).toNat := by decide
  have hsides : Decimal.value ['2', '0'] = (20 : UInt64).toNat := by decide
  rw [d20, Denotes, hcount, hsides, UInt64.toNat_inj, UInt64.toNat_inj, Option.map_none,
    Option.map_eq_none_iff]

/-- A phrase with a `d` in it is one of dice. -/
theorem exists_dice_of_mem {phrase : Phrase} (h : phrase.WellFormed) (hletter : 'd' ∈ phrase.render) :
    ∃ count sides keep modifier, phrase = dice count sides keep modifier := by
  cases phrase with
  | dice count sides keep modifier => exact ⟨count, sides, keep, modifier, rfl⟩
  | flat sign digits =>
    have hdigits : IsDigits digits := h
    rcases List.mem_append.1 hletter with hsign | hdigit
    · rcases Option.mem_toList.1 hsign with hchar
      rcases Option.map_eq_some_iff.1 hchar with ⟨sign, -, hd⟩
      cases sign with
      | plus => cases hd
      | minus => cases hd
    · exact absurd (hdigits.digits 'd' hdigit) (by decide)

/-- Dice without a `k` in them have no keep rule. -/
theorem keep_eq_none_of_not_mem {count sides : List Char} {keep : Option KeepDigits}
    {modifier : Option SignedDigits} (h : 'k' ∉ (dice count sides keep modifier).render) :
    keep = none := by
  cases keep with
  | none => rfl
  | some rule =>
    have hmem : 'k' ∈ renderKeepEnd rule.side := by
      cases rule.side <;> decide
    refine absurd ?_ h
    simp [render, renderKeep, hmem]

end Phrase

/-- A `k` in canonical notation comes of a character that folds to it. -/
theorem not_mem_canonical_of_fold {cs : List Char}
    (h : ∀ c ∈ cs, c ≠ '\u0130' ∧ foldCase c ≠ 'k') : 'k' ∉ Notation.canonical cs := by
  intro hmem
  rcases List.mem_flatMap.1 hmem with ⟨c, hc, hlower⟩
  have hin := h c (List.mem_of_mem_filter hc)
  rcases foldCase_of_mem_lowercase hlower (by decide) with hdotted | hfold
  · exact hin.1 hdotted
  · exact hin.2 hfold

namespace Rollable

/-! ## Dice -/

theorem fold_of_isDecimalDigit {c : Char} (h : isDecimalDigit c = true) :
    c ≠ '\u0130' ∧ foldCase c ≠ 'k' := by
  constructor
  · rintro rfl
    exact absurd h (by decide +kernel)
  · intro hfold
    have hletter := isAlpha_foldCase_of_isDecimalDigit h
    rw [hfold] at hletter
    exact absurd hletter (by decide)

theorem fold_of_isBlank {c : Char} (h : isBlank c = true) : c ≠ '\u0130' ∧ foldCase c ≠ 'k' := by
  constructor
  · rintro rfl
    exact absurd h (by decide)
  · intro hfold
    have hword : isWordChar c = true := isWordChar_of_foldCase (by rw [hfold]; decide)
    rw [isWordChar_of_isBlank h] at hword
    cases hword

/-- No character of dice that are written out becomes a `k`. -/
theorem fold_of_mem_dice {count sides modifier rest : List Char} {letter : Char}
    (hcount : ∀ c ∈ count, isDecimalDigit c = true) (hletter : IsDieLetter letter)
    (hsides : IsNumber sides) (hmodifier : ModifierBefore modifier rest) :
    ∀ c ∈ count ++ letter :: sides ++ modifier, c ≠ '\u0130' ∧ foldCase c ≠ 'k' := by
  intro c hc
  simp only [List.mem_append, List.mem_cons] at hc
  rcases hc with (hc | rfl | hc) | hc
  · exact fold_of_isDecimalDigit (hcount c hc)
  · rcases hletter with rfl | rfl
    · decide
    · decide
  · exact fold_of_isDecimalDigit (hsides.digits c hc)
  · rcases hmodifier with hmodifier | ⟨rfl, -⟩
    · rcases hmodifier.mem hc with hblank | hsign | hdigit
      · exact fold_of_isBlank hblank
      · rcases hsign with rfl | rfl
        · decide
        · decide
      · exact fold_of_isDecimalDigit hdigit
    · cases hc

theorem mem_canonical_of_isDieLetter {front back : List Char} {letter : Char}
    (h : IsDieLetter letter) : 'd' ∈ Notation.canonical (front ++ letter :: back) := by
  have hone : Notation.canonical [letter] = ['d'] := by
    rcases h with rfl | rfl
    · decide
    · decide
  have hsplit : front ++ letter :: back = front ++ ([letter] ++ back) := rfl
  rw [hsplit, Notation.canonical_append, Notation.canonical_append, hone]
  simp

/-- Dice that are written out, if they can be rolled, have sides and no keep rule. -/
theorem sides_and_keep_of_dice {count sides modifier rest : List Char} {letter : Char}
    {d : Descriptor} (hcount : ∀ c ∈ count, isDecimalDigit c = true) (hletter : IsDieLetter letter)
    (hsides : IsNumber sides) (hmodifier : ModifierBefore modifier rest)
    (h : Descriptor.parse (count ++ letter :: sides ++ modifier) = .ok d) :
    1 ≤ d.sides ∧ d.keep = none := by
  rcases Descriptor.exists_phrase_of_parse h with ⟨phrase, hwell, hrender, hrange, hd⟩
  have hdie : 'd' ∈ phrase.render := by
    rw [hrender, List.append_assoc]
    exact mem_canonical_of_isDieLetter hletter
  rcases Phrase.exists_dice_of_mem hwell hdie with ⟨count', sides', keep, modifier', rfl⟩
  have hkeep : keep = none := by
    apply Phrase.keep_eq_none_of_not_mem
    rw [hrender]
    exact not_mem_canonical_of_fold (fold_of_mem_dice hcount hletter hsides hmodifier)
  rcases hrange with ⟨-, ⟨hpos, -⟩, -⟩
  rcases hd with ⟨-, hsidesValue, hkeepValue, -⟩
  constructor
  · rw [UInt64.le_iff_toNat_le, hsidesValue]
    exact hpos
  · rw [hkeep, Option.map_none, Option.map_eq_none_iff] at hkeepValue
    exact hkeepValue

end Rollable

/-! ## The meaning of a token -/

/-- A descriptor is what a token means, by the text that was matched.  A bonus is a sign with ASCII
digits behind it and means a twenty-sided die with the number that is written there.  Dice mean what
their text means as notation, and they have sides and no keep rule.  The difficulty of a saving throw
is a row of ASCII digits, its ability a word of ASCII letters, and it means a twenty-sided die. -/
def Token.Means (t : Token) (d : Descriptor) : Prop :=
  match t.kind with
  | .attack bonus => ∃ (sign : Sign) (digits : List Char),
      t.matched = sign.char :: digits ∧ Phrase.IsDigits digits ∧
        d.count = 1 ∧ d.sides = 20 ∧ d.keep = none ∧ d.modifier = bonus ∧
        d.modifier.toInt = Phrase.signedValue (some sign) digits
  | .dice => Descriptor.parse t.matched = .ok d ∧ 1 ≤ d.sides ∧ d.keep = none
  | .save dc ability => Phrase.IsDigits t.matched ∧ Decimal.value t.matched = dc.toNat ∧
      Rollable.IsWord ability ∧ d = Descriptor.dice 1 20 none 0

namespace Rollable

/-- The sign of a bonus. -/
theorem IsBonus.exists_sign {cs : List Char} (h : IsBonus cs) :
    ∃ (sign : Sign) (digits : List Char), cs = sign.char :: digits := by
  rcases h with ⟨c, digits, rfl, rfl | rfl, -⟩
  · exact ⟨.plus, digits, rfl⟩
  · exact ⟨.minus, digits, rfl⟩

/-- A bonus that was read means the number that it shows. -/
theorem means_of_attackPiece {bonus : List Char} {t : Token} {d : Descriptor}
    (hbonus : IsBonus bonus) (h : attackPiece bonus = some (.token t))
    (hd : Descriptor.parse t.formula = .ok d) : t.Means d := by
  rcases Option.map_eq_some_iff.1 h with ⟨n, hn, heq⟩
  cases heq
  rcases hbonus.exists_sign with ⟨sign, digits, rfl⟩
  rcases Phrase.readSigned_cons_eq_ok_iff.1 (toOption_eq_some_iff.1 hn) with ⟨hdigits, hvalue⟩
  rcases Phrase.denotes_d20_iff.1 ((hasPhrase_attack _ n).denotes hd) with
    ⟨hcount, hsides, hkeep, hmodifier, -⟩
  rw [Phrase.modifierValue_ofInt] at hmodifier
  exact ⟨sign, digits, rfl, hdigits, hcount, hsides, hkeep, Int64.toInt_inj.1 hmodifier,
    hmodifier.trans hvalue⟩

/-- Dice mean what their text means. -/
theorem means_of_dicePiece {count sides modifier rest : List Char} {letter : Char} {t : Token}
    {d : Descriptor} (hcount : ∀ c ∈ count, isDecimalDigit c = true) (hletter : IsDieLetter letter)
    (hsides : IsNumber sides) (hmodifier : ModifierBefore modifier rest)
    (h : dicePiece (count ++ letter :: sides ++ modifier) = some (.token t))
    (hd : Descriptor.parse t.formula = .ok d) : t.Means d := by
  rcases Option.map_eq_some_iff.1 h with ⟨d', hd', heq⟩
  cases heq
  have hparse := toOption_eq_some_iff.1 hd'
  have hsame : d' = d := Except.ok.inj ((Descriptor.parse_canonical hparse).symm.trans hd)
  rw [hsame] at hparse
  exact ⟨hparse, sides_and_keep_of_dice hcount hletter hsides hmodifier hparse⟩

/-- The difficulty of a saving throw that was read means a twenty-sided die. -/
theorem means_of_savePiece {dc ability : List Char} {t : Token} {d : Descriptor}
    (hnumber : IsNumber dc) (hability : IsWord ability)
    (h : savePiece dc ability = some (.token t)) (hd : Descriptor.parse t.formula = .ok d) :
    t.Means d := by
  have hdenotes := (hasPhrase_of_savePiece h).denotes hd
  rcases Option.map_eq_some_iff.1 h with ⟨n, hn, heq⟩
  cases heq
  have hplus : dc.head? ≠ some '+' := by
    intro hhead
    have hdigit := hnumber.digits '+' (List.mem_of_head? hhead)
    exact absurd hdigit (by decide +kernel)
  rcases Phrase.isDigits_of_readUnsigned hplus (toOption_eq_some_iff.1 hn) with ⟨hdigits, hvalue⟩
  rcases Phrase.denotes_d20_iff.1 hdenotes with ⟨hcount, hsides, hkeep, hmodifier, hcanonical⟩
  refine ⟨hdigits, hvalue.symm, hability, ?_⟩
  have hzero : d.modifier = 0 := Int64.toInt_inj.1 hmodifier
  have hnotation : d.canonical = (Descriptor.dice 1 20 none 0).canonical := by
    rw [hcanonical]
    show "1d20".toList = Descriptor.renderDice 1 20 none 0
    decide +kernel
  rcases d with ⟨count, sides, keep, modifier, canonical⟩
  cases hcount
  cases hsides
  cases hkeep
  cases hzero
  cases hnotation
  rfl

/-- What a pattern makes of a match means what was matched. -/
theorem means_of_makes {p : Pattern} {t : Token} {d : Descriptor} (hp : p ∈ tokenPatterns)
    (h : p.Makes (.token t)) (hd : Descriptor.parse t.formula = .ok d) : t.Means d := by
  rcases origin_of_makes hp h with ⟨bonus, hbonus, hpiece⟩ |
    ⟨count, letter, sides, modifier, rest, hcount, hletter, hsides, hmodifier, hpiece⟩ |
    ⟨dc, ability, hnumber, hability, hpiece⟩
  · exact means_of_attackPiece hbonus hpiece hd
  · exact means_of_dicePiece hcount hletter hsides hmodifier hpiece hd
  · exact means_of_savePiece hnumber hability hpiece hd

end Rollable

/-- Every token that is found in a text stands for a notation, and has a query for it. -/
theorem exists_query_of_mem_scan {cs : List Char} {placed : PlacedToken} (h : placed ∈ scan cs) :
    ∃ d, Descriptor.parse placed.token.formula = .ok d ∧ d.canonical = placed.token.formula ∧
      placed.token.query = .ok ⟨placed.token.formula, d⟩ := by
  have hmem := Piece.mem_of_mem_placed (mem_placed_of_mem_scan h)
  rcases exists_phrase_of_mem_pieces hmem with ⟨phrase, hphrase⟩
  rcases hphrase.exists_query with ⟨d, hparse, hdenotes, hquery⟩
  exact ⟨d, hparse, hdenotes.canonical_eq, hquery⟩

/-- Every token that is found in a text has a query, for its notation as it stands; the descriptor can
be rolled, it is written as that notation, and it is what the token means. -/
theorem query_of_mem_scan {cs : List Char} {placed : PlacedToken} (h : placed ∈ scan cs) :
    ∃ d, placed.token.query = .ok ⟨placed.token.formula, d⟩ ∧ d.validate = .ok () ∧
      d.canonical = placed.token.formula ∧ placed.token.Means d := by
  have hmem := Piece.mem_of_mem_placed (mem_placed_of_mem_scan h)
  rcases makes_of_mem_token hmem with ⟨p, hp, hmakes⟩
  rcases exists_query_of_mem_scan h with ⟨d, hparse, hcanonical, hquery⟩
  exact ⟨d, hquery, Descriptor.validate_of_parse hparse, hcanonical,
    Rollable.means_of_makes hp hmakes hparse⟩

/-- A bonus with leading zeros, in front of a difficulty as large as can be. -/
theorem query_of_mem_scan_bonus :
    ⟨⟨"-007".toList, .attack (-7)⟩, 8⟩ ∈
        scan "Attack: -007 (DC 18446744073709551615 Wisdom saving throw)".toList ∧
      ∃ d, Token.query ⟨"-007".toList, .attack (-7)⟩ = .ok ⟨"1d20-7".toList, d⟩ ∧
        d.validate = .ok () ∧ d.canonical = "1d20-7".toList ∧
        Token.Means ⟨"-007".toList, .attack (-7)⟩ d := by
  have hmem : ⟨⟨"-007".toList, .attack (-7)⟩, 8⟩ ∈
      scan "Attack: -007 (DC 18446744073709551615 Wisdom saving throw)".toList := by
    decide +kernel
  have hformula : Token.formula ⟨"-007".toList, .attack (-7)⟩ = "1d20-7".toList := by
    decide +kernel
  have hquery := query_of_mem_scan hmem
  rw [hformula] at hquery
  exact ⟨hmem, hquery⟩

end DiceRoller
