import DiceRoller.Proofs.Notation.Meaning
import DiceRoller.Proofs.Roll.Chance

/-!
# Drawing throws from words

A generator throws a die with its next word that is fair to all sides, and passes over the words
before it.  In whole numbers: a word `w` is stretched to the product of `w` and the number of sides,
whose high half picks the side; it is fair when the low half is below the largest doubling of the
number of sides that 64 bits hold.  The loop that does this has no bound of its own.  On a list of
words it ends all the same, because the zeros after the list are fair.

So random dice are nothing but agreed throws: a roll of them is the scripted roll of the throws that
were drawn.

Main results:

- Theorem `draws_throwDie`: the loop ends on every list of words, with the throw that is drawn.
- Theorem `Draws.unique`: words decide what is drawn.
- Theorem `drawsAll_throws`: the same for a row of dice.
- Theorem `solve_random_eq_scripted`: a random roll is the scripted roll of the throws drawn for it.
-/

namespace DiceRoller
namespace Generator

/-! ## Fair words -/

/-- The largest doubling of a number of sides that 64 bits hold. -/
def fairZone (sides : Nat) : Nat :=
  sides * 2 ^ (63 - sides.log2)

theorem fairZone_pos {sides : Nat} (h : sides ≠ 0) : 0 < fairZone sides :=
  Nat.mul_pos (Nat.pos_of_ne_zero h) (Nat.two_pow_pos _)

theorem fairZone_lt {sides : Nat} (h : sides < 2 ^ 64) : fairZone sides < 2 ^ 64 := by
  rcases Nat.eq_zero_or_pos sides with rfl | hpos
  · decide
  · have hlog : sides.log2 < 64 := (Nat.log2_lt (Nat.ne_of_gt hpos)).2 h
    have hexponent : sides.log2 + 1 + (63 - sides.log2) = 64 := by omega
    calc fairZone sides
        < 2 ^ (sides.log2 + 1) * 2 ^ (63 - sides.log2) :=
          Nat.mul_lt_mul_of_pos_right Nat.lt_log2_self (Nat.two_pow_pos _)
      _ = 2 ^ 64 := by rw [← Nat.pow_add, hexponent]

theorem toNat_log2 (sides : UInt64) : sides.log2.toNat = sides.toNat.log2 :=
  rfl

/-- The bound on fair words is the last number below the zone. -/
theorem toNat_zone {sides : UInt64} (h : sides.toNat ≠ 0) :
    (zone sides).toNat = fairZone sides.toNat - 1 := by
  have hlog : sides.toNat.log2 < 64 := (Nat.log2_lt h).2 sides.toNat_lt
  have hshift : (63 - sides.log2).toNat = 63 - sides.toNat.log2 := by
    rw [UInt64.toNat_sub, toNat_log2]
    have hsixty : UInt64.toNat 63 = 63 := rfl
    omega
  have hzone : (sides <<< (63 - sides.log2)).toNat = fairZone sides.toNat := by
    rw [UInt64.toNat_shiftLeft, hshift, Nat.mod_eq_of_lt (show 63 - sides.toNat.log2 < 64 by omega),
      Nat.shiftLeft_eq]
    exact Nat.mod_eq_of_lt (fairZone_lt sides.toNat_lt)
  have hpos := fairZone_pos h
  have hlt := fairZone_lt sides.toNat_lt
  rw [zone, UInt64.toNat_sub, hzone, UInt64.toNat_one]
  omega

/-- A word is fair when the low half of its product with the sides is below the zone. -/
theorem isFair_iff {sides : UInt64} (h : sides ≠ 0) (word : UInt64) :
    isFair sides word = true ↔
      word.toNat * sides.toNat % 2 ^ 64 < fairZone sides.toNat := by
  have hsides : sides.toNat ≠ 0 := fun hzero => h (UInt64.toNat_inj.1 hzero)
  have hpos := fairZone_pos hsides
  have hlow : (UInt64.ofNat (word.toNat * sides.toNat % UInt64.size)).toNat =
      word.toNat * sides.toNat % 2 ^ 64 := by
    rw [UInt64.toNat_ofNat']
    exact Nat.mod_mod _ _
  rw [isFair, decide_eq_true_iff, UInt64.le_iff_toNat_le, hlow, toNat_zone hsides]
  omega

/-- The side of a word is the high half of its product with the sides, counted from one. -/
theorem toNat_one_add_stretch {sides : UInt64} (h : sides ≠ 0) (word : UInt64) :
    (1 + stretch sides word).toNat = word.toNat * sides.toNat / 2 ^ 64 + 1 := by
  have hquotient : word.toNat * sides.toNat / 2 ^ 64 < 2 ^ 64 :=
    Nat.div_lt_of_lt_mul (Nat.mul_lt_mul'' word.toNat_lt sides.toNat_lt)
  have hstretch : (stretch sides word).toNat = word.toNat * sides.toNat / 2 ^ 64 := by
    rw [stretch, UInt64.toNat_ofNat']
    exact Nat.mod_eq_of_lt hquotient
  have hlt := UInt64.lt_iff_toNat_lt.1 (stretch_lt h word)
  have hsides := sides.toNat_lt
  rw [UInt64.toNat_add, UInt64.toNat_one, Nat.mod_eq_of_lt (by omega), hstretch, Nat.add_comm]

/-! ## One throw -/

/-- A generator draws a throw: words are passed over until one is fair, and its side is the throw.
-/
inductive Draws (sides : Nat) : Generator → Nat → Generator → Prop
  | take {g : Generator} {value : Nat}
      (fair : g.next.1.toNat * sides % 2 ^ 64 < fairZone sides)
      (side : value = g.next.1.toNat * sides / 2 ^ 64 + 1) : Draws sides g value g.next.2
  | pass {g g' : Generator} {value : Nat}
      (unfair : ¬ g.next.1.toNat * sides % 2 ^ 64 < fairZone sides)
      (later : Draws sides g.next.2 value g') : Draws sides g value g'

/-- Words decide what is drawn, and how many of them are used up. -/
theorem Draws.unique {sides : Nat} {g g₁ g₂ : Generator} {value₁ value₂ : Nat}
    (h₁ : Draws sides g value₁ g₁) (h₂ : Draws sides g value₂ g₂) : value₁ = value₂ ∧ g₁ = g₂ := by
  induction h₁ with
  | take fair side₁ =>
    cases h₂ with
    | take _ side₂ => exact ⟨side₁.trans side₂.symm, rfl⟩
    | pass unfair => exact absurd fair unfair
  | pass unfair _ ih =>
    cases h₂ with
    | take fair => exact absurd fair unfair
    | pass _ later => exact ih later

/-- What is drawn from a list leaves the end of the list. -/
theorem Draws.exists_listed {sides value : Nat} {words : List UInt64} {g : Generator}
    (h : Draws sides (.listed words) value g) :
    ∃ others, others <:+ words ∧ g = .listed others := by
  have hnext : ∀ words : List UInt64,
      (Generator.listed words).next.2 = .listed words.tail := by
    intro words
    cases words with
    | nil => rfl
    | cons word others => rfl
  generalize hstart : Generator.listed words = start at h
  induction h generalizing words with
  | take =>
    subst hstart
    exact ⟨words.tail, List.tail_suffix words, hnext words⟩
  | pass unfair later ih =>
    subst hstart
    rcases ih (hnext words).symm with ⟨others, hothers, hg⟩
    exact ⟨others, hothers.trans (List.tail_suffix words), hg⟩

section Throwing

variable {sides : UInt64}

/-- A fair word is the throw. -/
theorem draws_of_isFair (h : sides ≠ 0) {g : Generator} (hfair : isFair sides g.next.1 = true) :
    Draws sides.toNat g (1 + stretch sides g.next.1).toNat g.next.2 :=
  .take ((isFair_iff h g.next.1).1 hfair) (toNat_one_add_stretch h g.next.1)

/-- Passing over at most as many words as a list has is as good as passing over any number of them.
-/
theorem draws_throwWithin (h : sides ≠ 0) {n : Nat} {words : List UInt64} (hn : words.length ≤ n) :
    Draws sides.toNat (.listed words) (throwWithin n sides (.listed words)).1.toNat
      (throwWithin n sides (.listed words)).2 := by
  induction n generalizing words with
  | zero =>
    have hwords : words = [] := List.length_eq_zero_iff.1 (Nat.le_zero.1 hn)
    subst hwords
    exact draws_of_isFair h (isFair_zero sides)
  | succ n ih =>
    rw [throwWithin]
    by_cases hfair : isFair sides (Generator.listed words).next.1 = true
    · rw [if_pos hfair]
      exact draws_of_isFair h hfair
    · rw [if_neg hfair]
      cases words with
      | nil => exact absurd (isFair_zero sides) hfair
      | cons word others =>
        have hunfair := fun fair => hfair ((isFair_iff h word).2 fair)
        exact .pass hunfair (ih (Nat.le_of_succ_le_succ hn))

/-- The loop ends on every list of words, with the throw that is drawn. -/
theorem draws_throwDie (h : sides ≠ 0) (words : List UInt64) :
    Draws sides.toNat (.listed words) (throwDie sides (.listed words)).1.toNat
      (throwDie sides (.listed words)).2 :=
  draws_throwWithin h (Nat.le_refl words.length)

end Throwing

/-! ## A row of throws -/

/-- A generator draws throws one after the other. -/
inductive DrawsAll (sides : Nat) : Generator → List UInt64 → Generator → Prop
  | nil {g : Generator} : DrawsAll sides g [] g
  | cons {g g' g'' : Generator} {value : UInt64} {values : List UInt64}
      (first : Draws sides g value.toNat g') (others : DrawsAll sides g' values g'') :
      DrawsAll sides g (value :: values) g''

/-- Words decide what is drawn for a row of dice. -/
theorem DrawsAll.unique {sides : Nat} {g g₁ g₂ : Generator} {values₁ values₂ : List UInt64}
    (h₁ : DrawsAll sides g values₁ g₁) (h₂ : DrawsAll sides g values₂ g₂)
    (hlength : values₁.length = values₂.length) : values₁ = values₂ ∧ g₁ = g₂ := by
  induction h₁ generalizing values₂ with
  | nil =>
    cases h₂ with
    | nil => exact ⟨rfl, rfl⟩
    | cons => simp at hlength
  | cons first _ ih =>
    cases h₂ with
    | nil => simp at hlength
    | cons first' others' =>
      rcases first.unique first' with ⟨hvalue, rfl⟩
      rcases ih others' (Nat.succ.inj hlength) with ⟨rfl, rfl⟩
      exact ⟨by rw [UInt64.toNat_inj.1 hvalue], rfl⟩

end Generator

namespace Source

/-- The throws of random dice are those that are drawn from the words. -/
theorem drawsAll_throws {sides : UInt64} (h : sides ≠ 0) (n : Nat) (words : List UInt64) :
    Generator.DrawsAll sides.toNat (.listed words) (random.throws sides n (.listed words))
      (random.after sides n (.listed words)) := by
  induction n generalizing words with
  | zero => exact .nil
  | succ n ih =>
    have hfirst := Generator.draws_throwDie h words
    rcases hfirst.exists_listed with ⟨others, -, hothers⟩
    have hlater := ih others
    rw [← hothers] at hlater
    exact .cons hfirst hlater

/-- Agreed throws are used as they are. -/
@[simp]
theorem throws_scripted (sides : UInt64) (values : List UInt64) :
    scripted.throws sides values.length values = values := by
  induction values with
  | nil => rfl
  | cons value values ih => exact congrArg (value :: ·) ih

/-- As many requests as there are agreed throws use them up. -/
@[simp]
theorem after_scripted (sides : UInt64) (values : List UInt64) :
    scripted.after sides values.length values = [] := by
  induction values with
  | nil => rfl
  | cons value values ih => exact ih

end Source

namespace Descriptor

variable {d : Descriptor}

/-- A roll of agreed throws that all show sides settles them, and uses them up. -/
theorem rollAs_scripted (hvalid : d.validate = .ok ()) (label : List Char) {values : List UInt64}
    (hlength : values.length = d.count.toNat) (hsides : ∀ value ∈ values, IsSide d.sides value) :
    d.rollAs label .scripted values = (d.settle label values, []) := by
  rw [← Source.throws_scripted d.sides values, hlength] at hsides
  rw [rollAs_of_ok hvalid, Source.rollDice_of_sides hsides, ← hlength, Source.throws_scripted,
    Source.after_scripted]
  rfl

/-- The throws of a descriptor that can be rolled are drawn from the words; one without sides has no
dice. -/
theorem drawsAll_randomThrows (hvalid : d.validate = .ok ()) (words : List UInt64) :
    Generator.DrawsAll d.sides.toNat (.listed words) (d.randomThrows (.listed words))
      (d.spend (.listed words)) := by
  by_cases hzero : d.sides = 0
  · have hcount : d.count = 0 := ((validate_eq_ok_iff.1 hvalid).2.2.1 hzero).1
    rw [randomThrows, spend, hcount]
    exact .nil
  · exact Source.drawsAll_throws hzero d.count.toNat words

end Descriptor

/-- A roll of random dice is the scripted roll of the throws that are drawn for it.

Whatever the words, a query that was read is asked for dice with at least one side only, one request
for each of its dice.  The throws that answer them are those that the words decide, each of them a
side of the die; agreed on beforehand, they make the same roll.  It has a result, or its total is
too large. -/
theorem solve_random_eq_scripted {cs : List Char} {query : Query}
    (h : Query.parse cs = .ok query) (words : List UInt64) :
    let d := query.descriptor
    let run := query.solve Source.random.recorded ([], .listed words)
    (run.1, run.2.2) = query.solve .random (.listed words) ∧
    ∃ throws : List UInt64,
      throws.length = d.count.toNat ∧
      run.2.1 = List.replicate throws.length d.sides ∧
      (∀ sides ∈ run.2.1, 1 ≤ sides) ∧
      Generator.DrawsAll d.sides.toNat (.listed words) throws run.2.2 ∧
      (∀ others g, others.length = throws.length →
        Generator.DrawsAll d.sides.toNat (.listed words) others g →
          others = throws ∧ g = run.2.2) ∧
      (∀ value ∈ throws, 1 ≤ value ∧ value ≤ d.sides) ∧
      query.solve .scripted throws = (run.1, []) ∧
      ((∃ roll, run.1 = .ok roll) ∨ run.1 = .error .totalOverflow) := by
  intro d run
  have hvalid : d.validate = .ok () := by
    rcases map_eq_ok_iff.1 h with ⟨d', hparse, rfl⟩
    exact Descriptor.validate_of_parse hparse
  have hlength : (d.randomThrows (.listed words)).length = d.count.toNat :=
    Source.length_throws _ _
  have hsides := Descriptor.isSide_of_mem_randomThrows hvalid (.listed words)
  have hdrawn := Descriptor.drawsAll_randomThrows hvalid words
  have hrun : run = (d.settle query.label (d.randomThrows (.listed words)),
      List.replicate d.count.toNat d.sides, d.spend (.listed words)) :=
    Descriptor.rollAs_of_sides hvalid hsides
  refine ⟨Descriptor.rollAs_recorded .random query.label (.listed words),
    d.randomThrows (.listed words), hlength, ?_, ?_, ?_, ?_, hsides, ?_, ?_⟩
  · rw [hrun, hlength]
  · intro sides hrequest
    exact (Descriptor.requests_of_rollAs hrequest).2.1
  · rw [hrun]
    exact hdrawn
  · intro others g hcount hothers
    rw [hrun]
    exact hothers.unique hdrawn hcount
  · rw [hrun]
    exact Descriptor.rollAs_scripted hvalid query.label hlength hsides
  · rw [hrun]
    by_cases hfits : d.randomTotal (.listed words) ≤ Int64.maxValue.toInt
    · rcases Descriptor.settle_randomThrows_of_le hvalid query.label hfits with ⟨roll, hroll, -⟩
      exact Or.inl ⟨roll, hroll⟩
    · exact Or.inr (Descriptor.settle_randomThrows_of_lt hvalid query.label (Int.not_le.1 hfits))

/-- Two dice of six sides and one more: the first word is not fair to six sides and is passed over,
the other two show a four and a one. -/
theorem solve_random_eq_scripted_two_d6 :
    let words : List UInt64 := [3074457345618258602, 9223372036854775808, 5]
    let query : Query := ⟨" 2d6+1".toList, ⟨2, 6, none, 1, "2d6+1".toList⟩⟩
    Query.parse " 2d6+1".toList = .ok query ∧
      Generator.DrawsAll 6 (.listed words) [4, 1] (.listed []) ∧
      query.solve .scripted [4, 1] = ((query.solve .random (.listed words)).1, []) := by
  intro words query
  have hparse : Query.parse " 2d6+1".toList = .ok query := by decide +kernel
  have hfour : Generator.Draws 6 (.listed words.tail) 4 (.listed [5]) :=
    .take (g := .listed words.tail) (by decide) (by decide)
  have hone : Generator.Draws 6 (.listed [5]) 1 (.listed []) :=
    .take (g := .listed [5]) (by decide) (by decide)
  have hdrawn : Generator.DrawsAll 6 (.listed words) [4, 1] (.listed []) :=
    .cons (.pass (by decide) hfour) (.cons hone .nil)
  obtain ⟨hrun, throws, hlength, -, -, -, hunique, -, hscripted, -⟩ :=
    solve_random_eq_scripted hparse words
  have hthrows : [4, 1] = throws := (hunique [4, 1] (.listed []) hlength.symm hdrawn).1
  refine ⟨hparse, hdrawn, ?_⟩
  rw [hthrows, hscripted, ← hrun]

end DiceRoller
