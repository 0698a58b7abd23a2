import Mathlib.Data.Bool.AllAny
import Mathlib.Tactic.IntervalCases
import DiceRoller.Proofs.Notation.Meaning

/-!
# Reading what was written

The notation that is written for a descriptor is the written form of a phrase, it is canonical as it
stands, and the phrase has the very numbers of the descriptor.  So the notation is never refused for
its form, and what decides whether it is read back are the limits that also decide whether the
descriptor can be rolled; the two checks differ only in that a roll may do without sides.

Main results:

- Theorem `canonical_render`: the written forms of phrases are canonical.
- Theorem `Descriptor.parse_render`: a written phrase is read as the descriptor that it stands for.
- Theorem `inRange_ofDice_iff`: the limits of notation and those of descriptors agree.
- Theorem `Descriptor.parse_canonical_outcome`: when the notation of a descriptor is read back.
-/

namespace DiceRoller

/-! ## Canonical texts -/

/-- The characters of dice notation. -/
def notationChars : List Char :=
  "0123456789dkhl+-".toList

/-- Digits are characters of dice notation. -/
theorem mem_notationChars_of_isDigit {c : Char} (h : c.isDigit = true) : c ∈ notationChars := by
  have hrange := Char.isDigit_iff_toNat.1 h
  rw [← Char.ofNat_toNat c]
  generalize c.toNat = n at hrange
  have hlow : 48 ≤ n := hrange.1
  have hhigh : n ≤ 57 := hrange.2
  interval_cases n <;> decide

/-- Blanks are not. -/
theorem isBlank_of_mem_notationChars {c : Char} (h : c ∈ notationChars) :
    Text.isBlank c = false := by
  have hall : (notationChars.all fun c => !Text.isBlank c) = true := by decide
  simpa using List.all_eq_true.1 hall c h

/-- A text of such characters is canonical. -/
theorem canonical_eq_self {cs : List Char} (h : ∀ c ∈ cs, c ∈ notationChars) :
    Notation.canonical cs = cs := by
  have hchars : ∀ c ∈ notationChars, Text.isBlank c = false ∧ Text.lowercase c = [c] := by
    rw [← List.all_iff_forall_prop]
    decide
  induction cs with
  | nil => rfl
  | cons c cs ih =>
    rcases List.forall_mem_cons.1 h with ⟨hc, hcs⟩
    rcases hchars c hc with ⟨hblank, hlower⟩
    have hsplit : c :: cs = [c] ++ cs := rfl
    rw [hsplit, Notation.canonical_append, ih hcs]
    simp [Notation.canonical, Text.dropBlanks, hblank, hlower]

namespace Phrase

/-- A run of digits has no other characters. -/
theorem IsDigits.mem_notationChars {cs : List Char} (h : IsDigits cs) :
    ∀ c ∈ cs, c ∈ notationChars :=
  fun c hc => mem_notationChars_of_isDigit (h.digits c hc)

/-- Nor has a keep rule. -/
theorem mem_notationChars_of_mem_renderKeep {keep : Option KeepDigits}
    (h : ∀ rule, keep = some rule → IsDigits rule.digits) :
    ∀ c ∈ renderKeep keep, c ∈ notationChars := by
  cases keep with
  | none => simp [renderKeep]
  | some rule =>
    have hside : renderKeepEnd rule.side ⊆ notationChars := by
      cases rule.side <;> decide
    exact List.forall_mem_append.2 ⟨fun c hc => hside hc, (h rule rfl).mem_notationChars⟩

/-- Nor has a modifier. -/
theorem mem_notationChars_of_mem_renderSigned {modifier : Option SignedDigits}
    (h : ∀ part, modifier = some part → IsDigits part.digits) :
    ∀ c ∈ renderSigned modifier, c ∈ notationChars := by
  cases modifier with
  | none => simp [renderSigned]
  | some part =>
    have hsign : part.sign.char ∈ notationChars := by
      cases part.sign <;> decide
    exact List.forall_mem_cons.2 ⟨hsign, (h part rfl).mem_notationChars⟩

/-- Phrases are written with the characters of dice notation. -/
theorem WellFormed.mem_notationChars {phrase : Phrase} (h : phrase.WellFormed) :
    ∀ c ∈ phrase.render, c ∈ notationChars := by
  cases phrase with
  | dice count sides keep modifier =>
    rcases h with ⟨hcount, hsides, hkeep, hmodifier⟩
    have hletter : 'd' ∈ notationChars := by decide
    simp only [render, List.forall_mem_append, List.forall_mem_cons]
    exact ⟨⟨⟨fun c hc => mem_notationChars_of_isDigit (hcount c hc), hletter,
      hsides.mem_notationChars⟩, mem_notationChars_of_mem_renderKeep hkeep⟩,
      mem_notationChars_of_mem_renderSigned hmodifier⟩
  | flat sign digits =>
    have hdigits : IsDigits digits := h
    cases sign with
    | none => exact hdigits.mem_notationChars
    | some sign =>
      have hsign : sign.char ∈ notationChars := by
        cases sign <;> decide
      exact List.forall_mem_cons.2 ⟨hsign, hdigits.mem_notationChars⟩

/-- The written forms of phrases are canonical. -/
theorem canonical_render {phrase : Phrase} (h : phrase.WellFormed) :
    Notation.canonical phrase.render = phrase.render :=
  canonical_eq_self h.mem_notationChars

end Phrase

/-- A written phrase is read as the descriptor that it stands for. -/
theorem Descriptor.parse_render {phrase : Phrase} (h : phrase.WellFormed) :
    Descriptor.parse phrase.render = (phrase.descriptor phrase.render).mapError .value := by
  have hphrase : Phrase.parse phrase.render = .ok phrase := Phrase.parse_eq_ok_iff.2 ⟨h, rfl⟩
  rw [Descriptor.parse, Phrase.canonical_render h, hphrase]
  rfl

/-- It is read when its values can be rolled. -/
theorem Descriptor.parse_render_eq_ok_iff {phrase : Phrase} {d : Descriptor}
    (h : phrase.WellFormed) :
    Descriptor.parse phrase.render = .ok d ↔ phrase.InRange ∧ phrase.Denotes phrase.render d := by
  rw [Descriptor.parse_render h, mapError_eq_ok_iff, Phrase.descriptor_eq_ok_iff h]

/-- Otherwise it is refused for its numbers. -/
theorem Descriptor.parse_render_eq_value_iff {phrase : Phrase} (h : phrase.WellFormed) :
    (∃ fault, Descriptor.parse phrase.render = .error (.value fault)) ↔ ¬ phrase.InRange := by
  have hvalue : ∀ fault, Descriptor.parse phrase.render = .error (.value fault) ↔
      phrase.descriptor phrase.render = .error fault := by
    intro fault
    rw [Descriptor.parse_render h, mapError_eq_error_iff]
    simp
  simp only [hvalue]
  rw [exists_error_iff, Phrase.exists_descriptor_iff h]

/-! ## Numbers in phrases -/

namespace Phrase

/-- A number is written with digits. -/
theorem isDigits_digits (n : Nat) : IsDigits (Decimal.digits n) :=
  ⟨Decimal.digits_ne_nil n, Decimal.isDigit_of_mem_digits n⟩

/-- A number with its sign. -/
def ofInt (n : Int) : SignedDigits :=
  ⟨if n < 0 then .minus else .plus, Decimal.digits n.natAbs⟩

/-- A modifier is written with its sign. -/
theorem renderSigned_ofInt (n : Int) : renderSigned (some (ofInt n)) = Decimal.withSign n := by
  by_cases hneg : n < 0
  · simp [renderSigned, ofInt, Decimal.withSign, hneg, Sign.char]
  · simp [renderSigned, ofInt, Decimal.withSign, hneg, Sign.char]

/-- It is read as the number it was written for. -/
theorem modifierValue_ofInt (n : Int) : modifierValue (some (ofInt n)) = n := by
  by_cases hneg : n < 0
  · simp only [modifierValue, ofInt, signedValue, hneg, if_true, Decimal.value_digits]
    omega
  · simp only [modifierValue, ofInt, signedValue, hneg, if_false, Decimal.value_digits]
    rw [if_neg (by simp)]
    omega

/-- So is a number of dice. -/
theorem countValue_digits (n : Nat) : countValue (Decimal.digits n) = n := by
  rw [countValue, if_neg (Decimal.digits_ne_nil n), Decimal.value_digits]

/-- The written form of a keep rule. -/
def ofKeep (keep : Keep) : KeepDigits :=
  ⟨(plainKeep keep).1, Decimal.digits (plainKeep keep).2⟩

/-- A keep rule is written as its phrase is. -/
theorem renderKeep_ofKeep (keep : Keep) : renderKeep (some (ofKeep keep)) = keep.render := by
  cases keep with
  | high n => rfl
  | low n => rfl

/-! ## The phrase of a descriptor -/

/-- The phrase that is written for dice; a modifier of zero is left out. -/
def ofDice (count sides : UInt64) (keep : Option Keep) (modifier : Int64) : Phrase :=
  dice (Decimal.digits count.toNat) (Decimal.digits sides.toNat) (keep.map ofKeep)
    (if modifier = 0 then none else some (ofInt modifier.toInt))

/-- The phrase that is written for a plain number, which has no plus. -/
def ofFlat (modifier : Int64) : Phrase :=
  flat (if modifier.toInt < 0 then some .minus else none) (Decimal.digits modifier.toInt.natAbs)

variable {count sides : UInt64} {keep : Option Keep} {modifier : Int64}

/-- The phrase of some dice is written as their canonical text. -/
theorem render_ofDice :
    (ofDice count sides keep modifier).render =
      (Descriptor.dice count sides keep modifier).canonical := by
  have hkeep : renderKeep (keep.map ofKeep) = (keep.map Keep.render).getD [] := by
    cases keep with
    | none => rfl
    | some keep => exact renderKeep_ofKeep keep
  have hmodifier : renderSigned (if modifier = 0 then none else some (ofInt modifier.toInt)) =
      Descriptor.renderModifier modifier := by
    by_cases hzero : modifier = 0
    · rw [if_pos hzero, Descriptor.renderModifier, if_pos hzero, renderSigned]
    · rw [if_neg hzero, Descriptor.renderModifier, if_neg hzero, renderSigned_ofInt]
  rw [ofDice, render, hkeep, hmodifier, Descriptor.dice_canonical, Descriptor.renderDice]

/-- So is the phrase of a plain number. -/
theorem render_ofFlat : (ofFlat modifier).render = (Descriptor.flat modifier).canonical := by
  show (ofFlat modifier).render = Decimal.signed modifier.toInt
  by_cases hneg : modifier.toInt < 0
  · simp [ofFlat, render, hneg, Sign.char, Decimal.signed]
  · simp [ofFlat, render, hneg, Decimal.signed]

/-- The phrase of some dice has digits where it should. -/
theorem wellFormed_ofDice : (ofDice count sides keep modifier).WellFormed := by
  refine ⟨(isDigits_digits _).digits, isDigits_digits _, ?_, ?_⟩
  · intro rule hrule
    rcases Option.map_eq_some_iff.1 hrule with ⟨k, -, rfl⟩
    exact isDigits_digits _
  · intro part hpart
    split at hpart
    · cases hpart
    · cases hpart
      exact isDigits_digits _

/-- So has the phrase of a plain number. -/
theorem wellFormed_ofFlat : (ofFlat modifier).WellFormed :=
  isDigits_digits modifier.toInt.natAbs

/-- The values that are written down are those of the modifier. -/
theorem modifierValue_written :
    modifierValue (if modifier = 0 then none else some (ofInt modifier.toInt)) =
      modifier.toInt := by
  by_cases hzero : modifier = 0
  · rw [if_pos hzero, hzero, modifierValue, Int64.toInt_zero]
  · rw [if_neg hzero, modifierValue_ofInt]

/-- A modifier without a plus sign is read as the number it was written for. -/
theorem signedValue_written :
    signedValue (if modifier.toInt < 0 then some .minus else none)
      (Decimal.digits modifier.toInt.natAbs) = modifier.toInt := by
  by_cases hneg : modifier.toInt < 0
  · rw [if_pos hneg, signedValue, if_pos rfl, Decimal.value_digits]
    omega
  · rw [if_neg hneg, signedValue, if_neg (by simp), Decimal.value_digits]
    omega

/-- The phrase of a descriptor has the numbers of that descriptor. -/
theorem denotes_ofDice :
    (ofDice count sides keep modifier).Denotes
      (Descriptor.dice count sides keep modifier).canonical
      (Descriptor.dice count sides keep modifier) := by
  have hkeep : keep.map plainKeep =
      (keep.map ofKeep).map fun rule => (rule.side, Decimal.value rule.digits) := by
    cases keep with
    | none => rfl
    | some keep => simp [ofKeep, Decimal.value_digits]
  exact ⟨(countValue_digits _).symm, (Decimal.value_digits _).symm, hkeep,
    modifierValue_written.symm, rfl⟩

/-- The phrase of a plain number stands for it. -/
theorem denotes_ofFlat :
    (ofFlat modifier).Denotes (Descriptor.flat modifier).canonical (Descriptor.flat modifier) :=
  ⟨rfl, rfl, rfl, signedValue_written.symm, rfl⟩

/-- Every modifier has room. -/
theorem fitsModifier_toInt (n : Int64) : FitsModifier n.toInt :=
  ⟨n.le_toInt, n.toInt_lt⟩

/-- The limits of notation and those of descriptors agree, except that notation asks for sides. -/
theorem inRange_ofDice_iff :
    (ofDice count sides keep modifier).InRange ↔
      1 ≤ sides ∧ (Descriptor.dice count sides keep modifier).validate = .ok () := by
  have hone : 1 ≤ sides ↔ 0 < sides.toNat := UInt64.le_iff_toNat_le
  have hzero : sides = 0 ↔ ¬ 1 ≤ sides := by
    rw [hone, ← UInt64.toNat_inj, Nat.not_lt, Nat.le_zero_eq]
    rfl
  have hcount : count ≤ maxDice ↔ count.toNat ≤ 5000 := UInt64.le_iff_toNat_le
  have hsides : sides ≤ maxSides ↔ sides.toNat ≤ 5000 := UInt64.le_iff_toNat_le
  have hkeep : (∀ rule, keep.map ofKeep = some rule →
      0 < Decimal.value rule.digits ∧ Decimal.value rule.digits < 2 ^ 64) ↔
        ∀ k, keep = some k → k.count ≠ 0 := by
    cases keep with
    | none => simp
    | some k =>
      have hlt : (plainKeep k).2 < 2 ^ 64 := plainKeep_lt k
      simp only [Option.map_some, Option.some.injEq, forall_eq', ofKeep, Decimal.value_digits,
        count_ne_zero_iff, hlt, and_true]
  have hrange : (ofDice count sides keep modifier).InRange ↔
      count.toNat ≤ 5000 ∧ (0 < sides.toNat ∧ sides.toNat ≤ 5000) ∧
        ∀ k, keep = some k → k.count ≠ 0 := by
    simp only [ofDice, InRange, countValue_digits, Decimal.value_digits, modifierValue_written,
      fitsModifier_toInt, hkeep, and_true]
  rw [hrange, Descriptor.validate_eq_ok_iff, ← hone, ← hcount, ← hsides]
  constructor
  · intro h
    rcases h with ⟨hmax, ⟨hpos, hmaxSides⟩, hrules⟩
    exact ⟨hpos, hmax, hmaxSides, fun hnone => absurd hpos (hzero.1 hnone), hrules⟩
  · intro h
    rcases h with ⟨hpos, hmax, hmaxSides, -, hrules⟩
    exact ⟨hmax, ⟨hpos, hmaxSides⟩, hrules⟩

/-- So a plain number is never out of range. -/
theorem inRange_ofFlat : (ofFlat modifier).InRange := by
  show FitsModifier (signedValue _ _)
  rw [signedValue_written]
  exact fitsModifier_toInt modifier

end Phrase

/-! ## Descriptors and their notation -/

/-- The notation of dice has the characters of dice notation only. -/
theorem Descriptor.mem_notationChars_dice (count sides : UInt64) (keep : Option Keep)
    (modifier : Int64) :
    ∀ c ∈ (Descriptor.dice count sides keep modifier).canonical, c ∈ notationChars := by
  rw [← Phrase.render_ofDice]
  exact Phrase.wellFormed_ofDice.mem_notationChars

/-- So does the notation of a plain number. -/
theorem Descriptor.mem_notationChars_flat (modifier : Int64) :
    ∀ c ∈ (Descriptor.flat modifier).canonical, c ∈ notationChars := by
  rw [← Phrase.render_ofFlat]
  exact Phrase.wellFormed_ofFlat.mem_notationChars

/-- Dice with sides that can be rolled are read from their notation. -/
theorem Descriptor.parse_dice {count sides : UInt64} {keep : Option Keep} {modifier : Int64}
    (hsides : 1 ≤ sides) (hvalid : (Descriptor.dice count sides keep modifier).validate = .ok ()) :
    Descriptor.parse (Descriptor.dice count sides keep modifier).canonical =
      .ok (Descriptor.dice count sides keep modifier) := by
  rw [← Phrase.render_ofDice, Descriptor.parse_render_eq_ok_iff Phrase.wellFormed_ofDice,
    Phrase.render_ofDice]
  exact ⟨Phrase.inRange_ofDice_iff.2 ⟨hsides, hvalid⟩, Phrase.denotes_ofDice⟩

/-- The notation of dice is read back as the descriptor that it was written for, if that has sides and
can be rolled; otherwise it is refused for its numbers, and never for its form.  The notation of a
plain number is always read back. -/
theorem Descriptor.parse_canonical_outcome :
    (∀ (count sides : UInt64) (keep : Option Keep) (modifier : Int64),
      let d := Descriptor.dice count sides keep modifier
      (Descriptor.parse d.canonical = .ok d ↔ 1 ≤ sides ∧ d.validate = .ok ()) ∧
      ((∃ fault, Descriptor.parse d.canonical = .error (.value fault)) ↔
        ¬ (1 ≤ sides ∧ d.validate = .ok ()))) ∧
    ∀ modifier : Int64,
      Descriptor.parse (Descriptor.flat modifier).canonical = .ok (Descriptor.flat modifier) := by
  refine ⟨?_, ?_⟩
  · intro count sides keep modifier d
    have hwell : (Phrase.ofDice count sides keep modifier).WellFormed := Phrase.wellFormed_ofDice
    have hrender : (Phrase.ofDice count sides keep modifier).render = d.canonical :=
      Phrase.render_ofDice
    have hdenotes : (Phrase.ofDice count sides keep modifier).Denotes d.canonical d :=
      Phrase.denotes_ofDice
    rw [← Phrase.inRange_ofDice_iff, ← Descriptor.parse_render_eq_value_iff hwell, hrender]
    refine ⟨?_, Iff.rfl⟩
    rw [← hrender, Descriptor.parse_render_eq_ok_iff hwell, hrender]
    exact and_iff_left hdenotes
  · intro modifier
    rw [← Phrase.render_ofFlat, Descriptor.parse_render_eq_ok_iff Phrase.wellFormed_ofFlat,
      Phrase.render_ofFlat]
    exact ⟨Phrase.inRange_ofFlat, Phrase.denotes_ofFlat⟩

end DiceRoller
