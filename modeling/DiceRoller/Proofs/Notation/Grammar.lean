import DiceRoller.Notation.Phrase
import DiceRoller.Proofs.Outcome
import DiceRoller.Proofs.Text.Run

/-!
# The language of dice notation

Reading a phrase undoes writing it: the texts that are read are the written forms of the phrases
whose numbers are runs of digits, and each of them is read as the phrase that it is written for.
So no text has two readings, and the order in which the reader tries the two kinds of phrases, and
the greed with which it takes digits, make no difference.

Main results:

- Theorem `parse_eq_ok_iff`: what the reader accepts, and as what it reads it.
- Theorem `render_injective`: no text is the written form of two phrases.
-/

namespace DiceRoller
namespace Phrase

/-- ASCII digits, at least one. -/
structure IsDigits (cs : List Char) : Prop where
  ne_nil : cs ≠ []
  digits : ∀ c ∈ cs, c.isDigit = true

/-- A phrase whose numbers are runs of digits; the number of dice may be left out. -/
def WellFormed : Phrase → Prop
  | dice count sides keep modifier =>
    (∀ c ∈ count, c.isDigit = true) ∧ IsDigits sides ∧
      (∀ rule, keep = some rule → IsDigits rule.digits) ∧
      ∀ part, modifier = some part → IsDigits part.digits
  | flat _ digits => IsDigits digits

/-- A text that does not go on with a digit. -/
def StopsDigits (cs : List Char) : Prop :=
  ∀ c, cs.head? = some c → c.isDigit = false

/-! ## Parts of a phrase -/

/-- What is taken as digits: all that stand there, if any. -/
theorem takeDigits_eq_iff {cs front back : List Char} :
    takeDigits cs = (front, back) ↔
      cs = front ++ back ∧ (∀ c ∈ front, c.isDigit = true) ∧ StopsDigits back := by
  rw [takeDigits, Prod.mk.injEq]
  exact Text.takeWhile_dropWhile_eq_iff

/-- The same where at least one has to stand there. -/
theorem needDigits_eq_ok_iff {whole cs front back : List Char} :
    needDigits whole cs = .ok (front, back) ↔
      cs = front ++ back ∧ IsDigits front ∧ StopsDigits back := by
  constructor
  · intro h
    unfold needDigits at h
    split at h
    · cases h
    · rename_i digits rest hne htaken
      cases h
      obtain ⟨hcs, hdigits, hstop⟩ := takeDigits_eq_iff.1 htaken
      refine ⟨hcs, ⟨?_, hdigits⟩, hstop⟩
      rintro rfl
      exact hne rfl
  · rintro ⟨rfl, hdigits, hstop⟩
    have htaken : takeDigits (front ++ back) = (front, back) :=
      takeDigits_eq_iff.2 ⟨rfl, hdigits.digits, hstop⟩
    unfold needDigits
    rw [htaken]
    cases front with
    | nil => exact absurd rfl hdigits.ne_nil
    | cons c front => rfl

/-- What is taken as the keyword of a keep rule. -/
theorem takeKeepEnd_eq_some_iff {cs rest : List Char} {side : KeepEnd} :
    takeKeepEnd cs = some (side, rest) ↔ cs = renderKeepEnd side ++ rest := by
  constructor
  · intro h
    unfold takeKeepEnd at h
    split at h
    · cases h
      rfl
    · cases h
      rfl
    · cases h
  · rintro rfl
    cases side <;> rfl

/-- What is taken as a sign. -/
theorem takeSign_eq_some_iff {cs rest : List Char} {sign : Sign} :
    takeSign cs = some (sign, rest) ↔ cs = sign.char :: rest := by
  constructor
  · intro h
    unfold takeSign at h
    split at h
    · cases h
      rfl
    · cases h
      rfl
    · cases h
  · rintro rfl
    cases sign <;> rfl

/-- The end of the text is no digit. -/
theorem stopsDigits_nil : StopsDigits [] := by
  intro c hc
  cases hc

/-- The `d` is none. -/
theorem stopsDigits_d (cs : List Char) : StopsDigits ('d' :: cs) := by
  intro c hc
  cases hc
  decide

/-- A sign is none. -/
theorem stopsDigits_sign (sign : Sign) (cs : List Char) : StopsDigits (sign.char :: cs) := by
  intro c hc
  cases hc
  cases sign <;> decide

/-- So a number ends in front of a modifier, or of nothing. -/
theorem stopsDigits_renderSigned (modifier : Option SignedDigits) :
    StopsDigits (renderSigned modifier) := by
  cases modifier with
  | none => exact stopsDigits_nil
  | some part => exact stopsDigits_sign part.sign part.digits

/-- And in front of a keep rule. -/
theorem stopsDigits_renderKeep_append (keep : Option KeepDigits) (modifier : Option SignedDigits) :
    StopsDigits (renderKeep keep ++ renderSigned modifier) := by
  cases keep with
  | none => exact stopsDigits_renderSigned modifier
  | some rule =>
    intro c hc
    rcases rule with ⟨side, digits⟩
    cases side <;> cases hc <;> decide

/-- A modifier does not begin with the keyword of a keep rule. -/
theorem takeKeepEnd_renderSigned (modifier : Option SignedDigits) :
    takeKeepEnd (renderSigned modifier) = none := by
  cases modifier with
  | none => rfl
  | some part =>
    rcases part with ⟨sign, digits⟩
    cases sign <;> rfl

/-! ## Readers and writers -/

/-- The reader of modifiers accepts what is written for one, or nothing. -/
theorem parseModifier_eq_ok_iff {whole cs : List Char} {expected : Expected}
    {modifier : Option SignedDigits} :
    parseModifier whole cs expected = .ok modifier ↔
      renderSigned modifier = cs ∧ ∀ part, modifier = some part → IsDigits part.digits := by
  constructor
  · intro h
    unfold parseModifier at h
    split at h
    · cases h
      exact ⟨rfl, fun part hpart => by cases hpart⟩
    · split at h
      · cases h
      · rename_i sign rest hsign
        obtain ⟨⟨digits, back⟩, hdigits, h⟩ := bind_eq_ok_iff.1 h
        obtain ⟨hrest, hisDigits, -⟩ := needDigits_eq_ok_iff.1 hdigits
        split at h
        · rename_i heq
          cases heq
          cases h
          refine ⟨?_, fun part hpart => ?_⟩
          · rw [takeSign_eq_some_iff.1 hsign, hrest, List.append_nil, renderSigned]
          · cases hpart
            exact hisDigits
        · cases h
  · rintro ⟨rfl, hdigits⟩
    cases modifier with
    | none => rfl
    | some part =>
      have hsign : takeSign (part.sign.char :: part.digits) = some (part.sign, part.digits) :=
        takeSign_eq_some_iff.2 rfl
      have hneed : needDigits whole part.digits = .ok (part.digits, []) :=
        needDigits_eq_ok_iff.2
          ⟨(List.append_nil part.digits).symm, hdigits part rfl, stopsDigits_nil⟩
      unfold parseModifier
      simp only [renderSigned, hsign, hneed]
      rfl

/-- The reader of what follows the `d` accepts sides, and rules as they are written. -/
theorem parseDice_eq_ok_iff {whole count cs : List Char} {phrase : Phrase} :
    parseDice whole count cs = .ok phrase ↔ ∃ sides keep modifier,
      phrase = dice count sides keep modifier ∧
      cs = sides ++ renderKeep keep ++ renderSigned modifier ∧ IsDigits sides ∧
      (∀ rule, keep = some rule → IsDigits rule.digits) ∧
      ∀ part, modifier = some part → IsDigits part.digits := by
  constructor
  · intro h
    obtain ⟨⟨sides, rest⟩, hsides, h⟩ := bind_eq_ok_iff.1 h
    obtain ⟨hcs, hisSides, -⟩ := needDigits_eq_ok_iff.1 hsides
    dsimp only at h
    split at h
    · rename_i side rest' hkeep
      obtain ⟨⟨digits, more⟩, hdigits, h⟩ := bind_eq_ok_iff.1 h
      obtain ⟨modifier, hmodifier, h⟩ := bind_eq_ok_iff.1 h
      obtain ⟨hrest', hisDigits, -⟩ := needDigits_eq_ok_iff.1 hdigits
      obtain ⟨rfl, hisModifier⟩ := parseModifier_eq_ok_iff.1 hmodifier
      cases h
      refine ⟨sides, some ⟨side, digits⟩, modifier, rfl, ?_, hisSides, ?_, hisModifier⟩
      · rw [hcs, takeKeepEnd_eq_some_iff.1 hkeep, hrest', renderKeep]
        simp only [List.append_assoc]
      · intro rule hrule
        cases hrule
        exact hisDigits
    · obtain ⟨modifier, hmodifier, h⟩ := bind_eq_ok_iff.1 h
      obtain ⟨hmore, hisModifier⟩ := parseModifier_eq_ok_iff.1 hmodifier
      cases h
      refine ⟨sides, none, modifier, rfl, ?_, hisSides, ?_, hisModifier⟩
      · rw [hcs, ← hmore, renderKeep, List.append_nil]
      · intro rule hrule
        cases hrule
  · rintro ⟨sides, keep, modifier, rfl, rfl, hisSides, hisKeep, hisModifier⟩
    have hsides : needDigits whole (sides ++ (renderKeep keep ++ renderSigned modifier)) =
        .ok (sides, renderKeep keep ++ renderSigned modifier) :=
      needDigits_eq_ok_iff.2 ⟨rfl, hisSides, stopsDigits_renderKeep_append keep modifier⟩
    rw [List.append_assoc]
    refine bind_eq_ok_iff.2 ⟨_, hsides, ?_⟩
    cases keep with
    | none =>
      have hmodifier : parseModifier whole (renderSigned modifier) .keepSignOrEnd = .ok modifier :=
        parseModifier_eq_ok_iff.2 ⟨rfl, hisModifier⟩
      simp only [renderKeep, List.nil_append, takeKeepEnd_renderSigned]
      exact bind_eq_ok_iff.2 ⟨modifier, hmodifier, rfl⟩
    | some rule =>
      have hkeep : takeKeepEnd (renderKeep (some rule) ++ renderSigned modifier) =
          some (rule.side, rule.digits ++ renderSigned modifier) :=
        takeKeepEnd_eq_some_iff.2 (by rw [renderKeep, List.append_assoc])
      have hdigits : needDigits whole (rule.digits ++ renderSigned modifier) =
          .ok (rule.digits, renderSigned modifier) :=
        needDigits_eq_ok_iff.2 ⟨rfl, hisKeep rule rfl, stopsDigits_renderSigned modifier⟩
      have hmodifier : parseModifier whole (renderSigned modifier) .signOrEnd = .ok modifier :=
        parseModifier_eq_ok_iff.2 ⟨rfl, hisModifier⟩
      simp only [hkeep]
      exact bind_eq_ok_iff.2 ⟨_, hdigits, bind_eq_ok_iff.2 ⟨modifier, hmodifier, rfl⟩⟩

/-- The reader of plain numbers accepts digits up to the end of the text. -/
theorem parseFlat_eq_ok_iff {whole cs : List Char} {sign : Option Sign} {phrase : Phrase} :
    parseFlat whole sign cs = .ok phrase ↔ phrase = flat sign cs ∧ IsDigits cs := by
  constructor
  · intro h
    obtain ⟨⟨digits, rest⟩, hdigits, h⟩ := bind_eq_ok_iff.1 h
    obtain ⟨hcs, hisDigits, -⟩ := needDigits_eq_ok_iff.1 hdigits
    split at h
    · rename_i heq
      cases heq
      cases h
      rw [hcs, List.append_nil]
      exact ⟨rfl, hisDigits⟩
    · cases h
  · rintro ⟨rfl, hisDigits⟩
    have hdigits : needDigits whole cs = .ok (cs, []) :=
      needDigits_eq_ok_iff.2 ⟨(List.append_nil cs).symm, hisDigits, stopsDigits_nil⟩
    exact bind_eq_ok_iff.2 ⟨_, hdigits, rfl⟩

/-- The reader accepts the written forms of the well-formed phrases, each as its phrase. -/
theorem parse_eq_ok_iff {cs : List Char} {phrase : Phrase} :
    parse cs = .ok phrase ↔ phrase.WellFormed ∧ phrase.render = cs := by
  constructor
  · intro h
    unfold parse at h
    split at h
    · rename_i count rest htaken
      obtain ⟨hcs, hcount, -⟩ := takeDigits_eq_iff.1 htaken
      obtain ⟨sides, keep, modifier, rfl, hrest, hrules⟩ := parseDice_eq_ok_iff.1 h
      refine ⟨⟨hcount, hrules⟩, ?_⟩
      rw [hcs, hrest, render]
      simp
    · split at h
      · rename_i sign rest hsign
        obtain ⟨rfl, hdigits⟩ := parseFlat_eq_ok_iff.1 h
        refine ⟨hdigits, ?_⟩
        rw [takeSign_eq_some_iff.1 hsign]
        rfl
      · cases h
    · obtain ⟨rfl, hdigits⟩ := parseFlat_eq_ok_iff.1 h
      exact ⟨hdigits, rfl⟩
  · rintro ⟨hwell, rfl⟩
    cases phrase with
    | dice count sides keep modifier =>
      have htaken : takeDigits (dice count sides keep modifier).render =
          (count, 'd' :: (sides ++ renderKeep keep ++ renderSigned modifier)) :=
        takeDigits_eq_iff.2 ⟨by simp [render], hwell.1, stopsDigits_d _⟩
      unfold parse
      simp only [htaken]
      exact parseDice_eq_ok_iff.2 ⟨sides, keep, modifier, rfl, rfl, hwell.2⟩
    | flat sign digits =>
      have hdigits : IsDigits digits := hwell
      cases sign with
      | none =>
        have htaken : takeDigits (flat none digits).render = (digits, []) :=
          takeDigits_eq_iff.2 ⟨(List.append_nil digits).symm, hdigits.digits, stopsDigits_nil⟩
        have hflat : parseFlat (flat none digits).render none (flat none digits).render =
            .ok (flat none digits) :=
          parseFlat_eq_ok_iff.2 ⟨rfl, hdigits⟩
        unfold parse
        rw [htaken]
        cases digits with
        | nil => exact absurd rfl hdigits.ne_nil
        | cons c digits => exact hflat
      | some sign =>
        have htaken : takeDigits (flat (some sign) digits).render = ([], sign.char :: digits) :=
          takeDigits_eq_iff.2 ⟨rfl, by simp, stopsDigits_sign sign digits⟩
        have hsign : takeSign (flat (some sign) digits).render = some (sign, digits) :=
          takeSign_eq_some_iff.2 rfl
        unfold parse
        rw [htaken, hsign]
        cases sign <;> exact parseFlat_eq_ok_iff.2 ⟨rfl, hdigits⟩

/-- No text is the written form of two phrases. -/
theorem render_injective {a b : Phrase} (ha : a.WellFormed) (hb : b.WellFormed)
    (h : a.render = b.render) : a = b := by
  have hparse : parse b.render = .ok a := parse_eq_ok_iff.2 ⟨ha, h⟩
  rw [parse_eq_ok_iff.2 ⟨hb, rfl⟩] at hparse
  exact (Except.ok.inj hparse).symm

end Phrase
end DiceRoller
